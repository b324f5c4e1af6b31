/-
# Classes of objects that own a handle and can be moved

`Movable` is what a class says of its objects: what a move leaves of the object it takes from, what
an assignment calls for the object it writes over, and what the destructor calls.  `Settled` says
that every handle was released once, and by the object that held its title last.

* §1 -- the class, and the machine of its objects (`step_does`);
* §2 -- what a step must not do for the calls to follow the titles (`Tidy.step`);
* §3 -- a handle that nobody holds is lost for good (`Lost.step`), and how an assignment loses one;
* §4 -- a class that disarms what it moves from is settled exactly if no assignment writes over a
  handle without releasing it (`Disarms.settled_iff`);
* §5 -- a class whose moves copy is settled exactly if nothing is moved (`Copies.settled_iff`).
-/
import DocaCpp.Lib.History
import DocaCpp.Lib.Titles
import Mathlib.Data.List.Count

namespace DocaCpp

/-! ## 1. Classes and their objects -/

/-- The special members of a class whose objects wrap a handle. -/
structure Movable (A W H K : Type*) where
  /-- a constructor, from its other arguments and the handle -/
  construct : A → H → W
  /-- what a move leaves of the object it takes from -/
  moved : W → W
  /-- what an assignment calls for the object it writes over -/
  overwrite : W → List (K × H)
  /-- what the destructor calls -/
  destruct : W → List (K × H)
  /-- the call that gives a handle back -/
  release : K

/-- The objects that are alive, the handles they were constructed on, and the calls, each by the
object it was made for. -/
structure Objects (X W H K : Type*) where
  object : X → Option W := fun _ => none
  made : List H := []
  calls : List (X × K × H) := []

namespace Objects

variable {X W H K : Type*} (s : Objects X W H K) (x y source target : X)

/-- No object is alive. -/
def Dead : Prop := ∀ x, s.object x = none

/-- Calls for an object. -/
def call (calls : List (K × H)) : Objects X W H K :=
  { s with calls := s.calls ++ calls.map fun call => (x, call) }

@[simp] theorem object_call (calls : List (K × H)) : (s.call x calls).object = s.object := rfl

@[simp] theorem made_call (calls : List (K × H)) : (s.call x calls).made = s.made := rfl

variable [DecidableEq X]

/-- A new object on a new handle. -/
def place (w : W) (handle : H) : Objects X W H K :=
  { s with object := Function.update s.object x (some w), made := s.made ++ [handle] }

/-- The members are taken out of the source, of which something is left, and then put into the
target: an object that is moved to itself is as it was. -/
def relocate (w left : W) : Objects X W H K :=
  { s with object := Function.update (Function.update s.object source (some left)) target (some w) }

/-- An object is no more. -/
def remove : Objects X W H K := { s with object := Function.update s.object x none }

@[simp] theorem object_place (w : W) (handle : H) :
    (s.place x w handle).object y = if y = x then some w else s.object y :=
  Function.update_apply ..

@[simp] theorem made_place (w : W) (handle : H) : (s.place x w handle).made = s.made ++ [handle] :=
  rfl

@[simp] theorem object_relocate (w left : W) :
    (s.relocate source target w left).object y =
      if y = target then some w else if y = source then some left else s.object y := by
  simp [relocate, Function.update_apply]

@[simp] theorem made_relocate (w left : W) : (s.relocate source target w left).made = s.made := rfl

@[simp] theorem object_remove : (s.remove x).object y = if y = x then none else s.object y :=
  Function.update_apply ..

@[simp] theorem made_remove : (s.remove x).made = s.made := rfl

theorem relocate_self {w left : W} (hw : s.object x = some w) : s.relocate x x w left = s := by
  rw [relocate, Function.update_idem, ← hw, Function.update_eq_self]

end Objects

namespace Movable

variable {X A W H K : Type*} (C : Movable A W H K)

section Released

variable [DecidableEq K]

/-- The handles that calls release. -/
def releases (calls : List (K × H)) : List H :=
  (calls.filter fun call => call.1 = C.release).map (·.2)

/-- What an object will release. -/
def held (w : W) : List H := C.releases (C.destruct w)

/-- What is released when an object is written over. -/
def dropped (w : W) : List H := C.releases (C.overwrite w)

/-- What has been released, and by which object. -/
def released (s : Objects X W H K) : List (X × H) :=
  (s.calls.filter fun call => call.2.1 = C.release).map fun call => (call.1, call.2.2)

variable {C} (s : Objects X W H K) (x source target : X)

/-- The calls made for one object release its handles. -/
@[simp] theorem released_call (calls : List (K × H)) :
    C.released (s.call x calls) =
      C.released s ++ (C.releases calls).map fun handle => (x, handle) := by
  simp [released, releases, Objects.call, List.filter_map, Function.comp_def]

/-- What the object at an address will release. -/
def holds (C : Movable A W H K) (s : Objects X W H K) (x : X) : List H :=
  (s.object x).elim [] C.held

theorem holds_of_some {x : X} {w : W} (hw : s.object x = some w) : C.holds s x = C.held w := by
  rw [holds, hw]
  rfl

theorem holds_of_none {x : X} (hx : s.object x = none) : C.holds s x = [] := by
  rw [holds, hx]
  rfl

variable [DecidableEq X]

@[simp] theorem released_place (w : W) (handle : H) :
    C.released (s.place x w handle) = C.released s := rfl

@[simp] theorem released_relocate (w left : W) :
    C.released (s.relocate source target w left) = C.released s := rfl

@[simp] theorem released_remove : C.released (s.remove x) = C.released s := rfl

@[simp] theorem holds_place (w : W) (handle : H) (y : X) :
    C.holds (s.place x w handle) y = if y = x then C.held w else C.holds s y := by
  rw [holds, Objects.object_place]
  split
  next => rfl
  next => rfl

@[simp] theorem holds_relocate (w left : W) (y : X) :
    C.holds (s.relocate source target w left) y =
      if y = target then C.held w else if y = source then C.held left else C.holds s y := by
  rw [holds, Objects.object_relocate]
  split
  next => rfl
  next =>
    split
    next => rfl
    next => rfl

@[simp] theorem holds_remove (y : X) :
    C.holds (s.remove x) y = if y = x then [] else C.holds s y := by
  rw [holds, Objects.object_remove]
  split
  next => rfl
  next => rfl

end Released

variable [DecidableEq X] [DecidableEq H]

/-- One operation. -/
def step (s : Objects X W H K) : MoveOp X A H → Option (Objects X W H K)
  | .construct target args handle =>
    if (s.object target).isNone ∧ handle ∉ s.made then
      some (s.place target (C.construct args handle) handle)
    else none
  | .moveConstruct target source =>
    match s.object target, s.object source with
    | none, some w => some (s.relocate source target w (C.moved w))
    | _, _ => none
  | .moveAssign target source =>
    match s.object target, s.object source with
    | some v, some w =>
      some ((if target = source then s else s.call target (C.overwrite v)).relocate source target w
        (C.moved w))
    | _, _ => none
  | .destroy target =>
    (s.object target).map fun w => (s.call target (C.destruct w)).remove target

/-- The machine of the objects of a class. -/
def machine : Machine (Objects X W H K) (MoveOp X A H) := ⟨C.step⟩

variable {C} {s u : Objects X W H K} {op : MoveOp X A H}

/-- What an operation does, by cases. -/
inductive Does (C : Movable A W H K) (s : Objects X W H K) :
    MoveOp X A H → Objects X W H K → Prop
  | construct {target : X} {args : A} {handle : H} (hdead : s.object target = none)
      (hnew : handle ∉ s.made) :
      Does C s (.construct target args handle) (s.place target (C.construct args handle) handle)
  | moveConstruct {target source : X} {w : W} (hne : target ≠ source)
      (hdead : s.object target = none) (hw : s.object source = some w) :
      Does C s (.moveConstruct target source) (s.relocate source target w (C.moved w))
  | selfAssign {target : X} {w : W} (hw : s.object target = some w) :
      Does C s (.moveAssign target target) s
  | moveAssign {target source : X} {v w : W} (hne : target ≠ source)
      (hv : s.object target = some v) (hw : s.object source = some w) :
      Does C s (.moveAssign target source)
        ((s.call target (C.overwrite v)).relocate source target w (C.moved w))
  | destroy {target : X} {w : W} (hw : s.object target = some w) :
      Does C s (.destroy target) ((s.call target (C.destruct w)).remove target)

theorem step_does (h : C.step s op = some u) : C.Does s op u := by
  cases op with
  | construct target args handle =>
    rw [step, Option.ite_none_right_eq_some] at h
    obtain ⟨⟨hdead, hnew⟩, heq⟩ := h
    cases heq
    exact .construct (Option.isNone_iff_eq_none.mp hdead) hnew
  | moveConstruct target source =>
    rw [step] at h
    split at h
    next w hdead hw =>
      cases h
      refine .moveConstruct ?_ hdead hw
      rintro rfl
      rw [hdead] at hw
      cases hw
    next => cases h
  | moveAssign target source =>
    rw [step] at h
    split at h
    next v w hv hw =>
      by_cases hne : target = source
      · subst hne
        rw [if_pos rfl, s.relocate_self target hw] at h
        cases h
        exact .selfAssign hw
      · rw [if_neg hne] at h
        cases h
        exact .moveAssign hne hv hw
    next => cases h
  | destroy target =>
    obtain ⟨w, hw, heq⟩ := Option.map_eq_some_iff.mp h
    cases heq
    exact .destroy hw

/-! ## 2. Following the titles -/

variable [DecidableEq K] {ops : List (MoveOp X A H)} {x target source : X} {v w : W} {handle : H}

/-- **Every handle has been released exactly once, by its last owner.** -/
def Settled (C : Movable A W H K) (ops : List (MoveOp X A H)) (s : Objects X W H K) : Prop :=
  ∀ handle ∈ s.made, ∃ x, LastOwner ops x handle ∧
    (C.released s).filter (fun release => release.2 = handle) = [(x, handle)]

/-- What a class has to keep to: its constructors take the handle, its moves invent none, and an
assignment releases all that it writes over, or nothing. -/
structure Lawful (C : Movable A W H K) : Prop where
  construct : ∀ args handle, C.held (C.construct args handle) = [handle]
  moved : ∀ w, ∀ handle ∈ C.held (C.moved w), handle ∈ C.held w
  overwrite : ∀ w, C.dropped w = [] ∨ C.dropped w = C.held w

/-- **The calls follow the titles**: an object will release the handle it has the title to, and the
handles released are those whose title has ended. -/
structure Tidy (C : Movable A W H K) (t : Titles X H) (s : Objects X W H K) : Prop where
  holds : ∀ x, C.holds s x = (t.title x).toList
  released : C.released s = t.ended
  accounted : t.Accounted s.made

namespace Tidy

variable {t : Titles X H}

omit [DecidableEq X] in
theorem start : C.Tidy ({} : Titles X H) {} where
  holds _ := rfl
  released := rfl
  accounted := .start

omit [DecidableEq X] in
theorem held (h : C.Tidy t s) (hw : s.object x = some w) : C.held w = (t.title x).toList := by
  rw [← holds_of_some s hw, h.holds]

omit [DecidableEq X] in
theorem dead (h : C.Tidy t s) (hx : s.object x = none) : t.title x = none := by
  rw [← Option.toList_eq_nil_iff, ← h.holds, holds_of_none s hx]

/-- **Once no object is alive, every handle is settled.** -/
theorem settled (h : C.Tidy (titles ops) s) (hdead : s.Dead) : C.Settled ops s := by
  intro handle hmade
  obtain ⟨x, hx⟩ := h.accounted.settled (fun x => h.dead (hdead x)) hmade
  refine ⟨x, List.mem_of_mem_filter (hx ▸ List.mem_singleton_self _), ?_⟩
  rw [h.released, hx]

/-- A new object has the title to its handle. -/
theorem place (h : C.Tidy t s) (hheld : C.held w = [handle]) (hdead : s.object target = none)
    (hnew : handle ∉ s.made) : C.Tidy (t.make target handle) (s.place target w handle) where
  holds x := by
    rw [holds_place, Titles.title_make]
    split
    next => exact hheld
    next => exact h.holds x
  released := h.released
  accounted := h.accounted.make (h.dead hdead) hnew

/-- A move that leaves nothing to release passes the title on. -/
theorem relocate (h : C.Tidy t s) (hw : s.object source = some w)
    (hmoved : C.held (C.moved w) = []) (hdead : s.object target = none) :
    C.Tidy (t.pass source target) (s.relocate source target w (C.moved w)) where
  holds x := by
    rw [holds_relocate, Titles.title_pass]
    split
    next => exact h.held hw
    next =>
      split
      next => exact hmoved
      next => exact h.holds x
  released := h.released
  accounted := h.accounted.pass (h.dead hdead)

/-- So does an assignment, once the title of what it writes over has ended. -/
theorem assign (h : C.Tidy t s) (hne : target ≠ source) (hv : s.object target = some v)
    (hw : s.object source = some w) (hmoved : C.held (C.moved w) = [])
    (hdropped : C.dropped v = C.held v) :
    C.Tidy ((t.finish target).pass source target)
      ((s.call target (C.overwrite v)).relocate source target w (C.moved w)) where
  holds x := by
    rw [holds_relocate, Titles.title_pass, Titles.title_finish, Titles.title_finish,
      if_neg hne.symm]
    split
    next => exact h.held hw
    next =>
      split
      next => exact hmoved
      next => exact h.holds x
  released := by
    rw [released_relocate, released_call, Titles.ended_pass, Titles.ended_finish, ← h.released,
      ← h.held hv, ← hdropped]
    rfl
  accounted := h.accounted.finish.pass (by rw [Titles.title_finish, if_pos rfl])

/-- The title of an object ends when it is destroyed. -/
theorem remove (h : C.Tidy t s) (hw : s.object target = some w) :
    C.Tidy (t.finish target) ((s.call target (C.destruct w)).remove target) where
  holds x := by
    rw [holds_remove, Titles.title_finish]
    split
    next => rfl
    next => exact h.holds x
  released := by
    rw [released_remove, released_call, Titles.ended_finish, ← h.released, ← h.held hw]
    rfl
  accounted := h.accounted.finish

end Tidy

/-- An operation leaves nothing to release in the object it moves from, and releases what it writes
over. -/
def Clean (C : Movable A W H K) (s : Objects X W H K) : MoveOp X A H → Prop
  | .construct _ _ _ => True
  | .moveConstruct _ source => ∀ w, s.object source = some w → C.held (C.moved w) = []
  | .moveAssign target source =>
    target ≠ source → (∀ w, s.object source = some w → C.held (C.moved w) = []) ∧
      ∀ v, s.object target = some v → C.dropped v = C.held v
  | .destroy _ => True

omit [DecidableEq X] [DecidableEq H] in
theorem Clean.of_not_moves (h : ¬ op.Moves) : C.Clean s op := by
  cases op with
  | construct target args handle => trivial
  | moveConstruct target source => exact absurd trivial h
  | moveAssign target source => exact fun hne => absurd hne h
  | destroy target => trivial

/-- **A clean step follows the titles.** -/
theorem Tidy.step (hlaw : C.Lawful) (h : C.Tidy (titles ops) s) (hclean : C.Clean s op)
    (hs : C.step s op = some u) : C.Tidy (titles (ops ++ [op])) u := by
  rw [titles_concat]
  cases step_does hs with
  | construct hdead hnew => exact h.place (hlaw.construct _ _) hdead hnew
  | moveConstruct hne hdead hw => exact h.relocate hw (hclean _ hw) hdead
  | selfAssign hw =>
    rw [Titles.after, if_pos rfl]
    exact h
  | moveAssign hne hv hw =>
    obtain ⟨hmoved, hdropped⟩ := hclean hne
    rw [Titles.after, if_neg hne]
    exact h.assign hne hv hw (hmoved _ hw) (hdropped _ hv)
  | destroy hw => exact h.remove hw

/-! ## 3. Losing a handle -/

/-- A handle that no object holds and that has not been released. -/
structure Lost (C : Movable A W H K) (handle : H) (s : Objects X W H K) : Prop where
  made : handle ∈ s.made
  holds : ∀ x, handle ∉ C.holds s x
  released : ∀ x, (x, handle) ∉ C.released s

theorem Lost.not_settled (h : C.Lost handle s) : ¬ C.Settled ops s := by
  intro hsettled
  obtain ⟨x, -, hx⟩ := hsettled handle h.made
  exact h.released x (List.mem_of_mem_filter (hx ▸ List.mem_singleton_self _))

omit [DecidableEq H] in
/-- A move brings no handle to light that was not held. -/
theorem not_holds_relocate (hlaw : C.Lawful) (hw : handle ∉ C.held w)
    (hother : ∀ x, x ≠ target → handle ∉ C.holds s x) (x : X) :
    handle ∉ C.holds (s.relocate source target w (C.moved w)) x := by
  rw [holds_relocate]
  split
  next => exact hw
  next hxt =>
    split
    next => exact fun hmem => hw (hlaw.moved w handle hmem)
    next => exact hother x hxt

omit [DecidableEq X] [DecidableEq H] in
/-- The calls for an object do not release what it does not release. -/
theorem not_released_call {calls : List (K × H)} (h : ∀ y, (y, handle) ∉ C.released s)
    (hcalls : handle ∉ C.releases calls) (y : X) : (y, handle) ∉ C.released (s.call x calls) := by
  rw [released_call, List.mem_append, List.mem_map]
  rintro (hmem | ⟨g, hg, heq⟩)
  · exact h y hmem
  · cases heq
    exact hcalls hg

/-- **What is lost stays lost.** -/
theorem Lost.step (hlaw : C.Lawful) (h : C.Lost handle s) (hs : C.step s op = some u) :
    C.Lost handle u := by
  have hheld : ∀ {x w}, s.object x = some w → handle ∉ C.held w := by
    intro x w hw
    rw [← holds_of_some s hw]
    exact h.holds x
  cases step_does hs with
  | @construct target args handle' hdead hnew =>
    refine ⟨List.mem_append_left _ h.made, fun x => ?_, h.released⟩
    rw [holds_place]
    split
    next =>
      rw [hlaw.construct, List.mem_singleton]
      rintro rfl
      exact hnew h.made
    next => exact h.holds x
  | moveConstruct hne hdead hw =>
    exact ⟨h.made, not_holds_relocate hlaw (hheld hw) fun x _ => h.holds x, h.released⟩
  | selfAssign hw => exact h
  | @moveAssign target source v w hne hv hw =>
    refine ⟨h.made, not_holds_relocate hlaw (hheld hw) fun x _ => h.holds x,
      not_released_call h.released ?_⟩
    -- what an assignment releases was held by the target
    change handle ∉ C.dropped v
    rcases hlaw.overwrite v with hnil | hall
    · rw [hnil]
      exact List.not_mem_nil
    · rw [hall]
      exact hheld hv
  | destroy hw =>
    refine ⟨h.made, fun x => ?_, not_released_call h.released (hheld hw)⟩
    rw [holds_remove]
    split
    next => exact List.not_mem_nil
    next => exact h.holds x

/-- **An assignment loses what it writes over** and does not release. -/
theorem Tidy.lost {t : Titles X H} (hlaw : C.Lawful) (h : C.Tidy t s) (hne : target ≠ source)
    (hv : s.object target = some v) (hdropped : C.dropped v ≠ C.held v)
    (hs : C.step s (.moveAssign target source) = some u) : ∃ handle, C.Lost handle u := by
  have hnil : C.dropped v = [] := (hlaw.overwrite v).resolve_right hdropped
  obtain ⟨handle, htitle⟩ : ∃ handle, t.title target = some handle := by
    rw [← Option.ne_none_iff_exists']
    intro hnone
    rw [hnil, h.held hv, hnone] at hdropped
    exact hdropped rfl
  have hother : ∀ x, x ≠ target → handle ∉ C.holds s x := by
    intro x hx hmem
    rw [h.holds, Option.mem_toList] at hmem
    exact hx (h.accounted.unique hmem htitle)
  obtain ⟨hmade, hopen⟩ := h.accounted.sound htitle
  cases step_does hs with
  | selfAssign hw => exact absurd rfl hne
  | moveAssign _ hv' hw =>
    obtain rfl := Option.some.inj (hv.symm.trans hv')
    refine ⟨handle, hmade, not_holds_relocate hlaw ?_ hother, not_released_call ?_ ?_⟩
    · rw [← holds_of_some s hw]
      exact hother source hne.symm
    · rw [h.released]
      exact hopen
    · change handle ∉ C.dropped v
      rw [hnil]
      exact List.not_mem_nil

/-! ## 4. Classes that disarm what they move from -/

/-- A move leaves nothing to release in the object it takes from. -/
structure Disarms (C : Movable A W H K) : Prop extends C.Lawful where
  disarms : ∀ w, C.held (C.moved w) = []

/-- The operation assigns over no handle that it does not release. -/
def Spares (C : Movable A W H K) (s : Objects X W H K) (op : MoveOp X A H) : Prop :=
  ∀ target source v, op = .moveAssign target source → target ≠ source →
    s.object target = some v → C.dropped v = C.held v

omit [DecidableEq X] [DecidableEq H] in
theorem Disarms.clean (hdis : C.Disarms) (h : C.Spares s op) : C.Clean s op := by
  cases op with
  | construct target args handle => trivial
  | moveConstruct target source => exact fun w _ => hdis.disarms w
  | moveAssign target source =>
    exact fun hne => ⟨fun w _ => hdis.disarms w, fun v hv => h target source v rfl hne hv⟩
  | destroy target => trivial

/-- **A class that disarms what it moves from settles every handle exactly if no assignment writes
over a handle without releasing it.** -/
theorem Disarms.settled_iff (hdis : C.Disarms) (hrun : C.machine.Run {} ops s) (hdead : s.Dead) :
    C.Settled ops s ↔ C.machine.EveryStep {} (fun _ => C.Spares) ops := by
  have hor := Machine.everyStep_or (I := fun ops => C.Tidy (titles ops))
    (J := fun _ t => ∃ handle, C.Lost handle t) .start
    (fun _ _ _ _ _ htidy hs hspares => htidy.step hdis.toLawful (hdis.clean hspares) hs)
    (fun ls t op u _ htidy hs hnot => ?_)
    (fun _ _ _ _ _ ⟨handle, hlost⟩ hs => ⟨handle, hlost.step hdis.toLawful hs⟩) hrun
  · rcases hor with ⟨hevery, htidy⟩ | ⟨hevery, handle, hlost⟩
    · exact iff_of_true (htidy.settled hdead) hevery
    · exact iff_of_false hlost.not_settled hevery
  · simp only [Spares, not_forall] at hnot
    obtain ⟨target, source, v, rfl, hne, hv, hdropped⟩ := hnot
    exact htidy.lost hdis.toLawful hne hv hdropped hs

/-- A class whose assignments release what they write over settles every handle of every run. -/
theorem Disarms.settled (hdis : C.Disarms) (hover : ∀ v, C.dropped v = C.held v)
    (hrun : C.machine.Run {} ops s) (hdead : s.Dead) : C.Settled ops s := by
  rw [hdis.settled_iff hrun hdead]
  intro pre op _ t u _ _ target source v _ _ _
  exact hover v

/-! ## 5. Classes whose moves copy -/

/-- A move leaves what it takes from as it was, and an assignment releases nothing. -/
structure Copies (C : Movable A W H K) : Prop extends C.Lawful where
  copies : ∀ w, C.held (C.moved w) = C.held w
  silent : ∀ w, C.dropped w = []

omit [DecidableEq H] [DecidableEq K] in
/-- After a move the target is alive as well. -/
theorem isSome_relocate (hw : s.object source = some w) :
    ((s.relocate source target w (C.moved w)).object x).isSome ↔
      x = target ∨ (s.object x).isSome := by
  rw [Objects.object_relocate]
  split
  next hx => simp [hx]
  next hx =>
    split
    next hxs => simp [hxs, hw]
    next => simp [hx]

omit [DecidableEq K] in
/-- The objects that are alive are those that were constructed or move-constructed and have not been
destroyed. -/
theorem alive_count (hrun : C.machine.Run {} ops s) :
    ∃ alive : List X, alive.Nodup ∧ (∀ x, x ∈ alive ↔ (s.object x).isSome) ∧
      alive.length + ops.countP MoveOp.isDestroy =
        s.made.length + ops.countP MoveOp.isMoveConstruct := by
  induction hrun with
  | refl => exact ⟨[], List.nodup_nil, by simp, rfl⟩
  | @tail t u ops op hrun _ hs ih =>
    obtain ⟨alive, hnodup, hmem, hcount⟩ := ih
    rw [List.countP_append, List.countP_append, List.countP_singleton, List.countP_singleton]
    have hout : ∀ {x}, t.object x = none → x ∉ alive := by
      intro x hx
      rw [hmem, hx]
      simp
    cases step_does hs with
    | @construct target args handle hdead hnew =>
      refine ⟨target :: alive, List.nodup_cons.mpr ⟨hout hdead, hnodup⟩, fun x => ?_, ?_⟩
      · rw [Objects.object_place, List.mem_cons, hmem]
        split
        next hx => simp [hx]
        next hx => simp [hx]
      · simp [MoveOp.isDestroy, MoveOp.isMoveConstruct]
        omega
    | @moveConstruct target source w hne hdead hw =>
      refine ⟨target :: alive, List.nodup_cons.mpr ⟨hout hdead, hnodup⟩, fun x => ?_, ?_⟩
      · rw [List.mem_cons, hmem, isSome_relocate hw]
      · simp [MoveOp.isDestroy, MoveOp.isMoveConstruct]
        omega
    | selfAssign hw => exact ⟨alive, hnodup, hmem, hcount⟩
    | @moveAssign target source v w hne hv hw =>
      refine ⟨alive, hnodup, fun x => ?_, hcount⟩
      rw [hmem, isSome_relocate (s := t.call target _) hw, Objects.object_call]
      constructor
      · exact .inr
      · rintro (rfl | hx)
        · rw [hv]
          rfl
        · exact hx
    | @destroy target w hw =>
      have hin : target ∈ alive := by
        rw [hmem, hw]
        rfl
      refine ⟨alive.erase target, hnodup.erase target, fun x => ?_, ?_⟩
      · rw [hnodup.mem_erase_iff, hmem, Objects.object_remove, Objects.object_call]
        split
        next hx => simp [hx]
        next hx => simp [hx]
      · rw [List.length_erase_of_mem hin]
        have hpos : 0 < alive.length := List.length_pos_of_mem hin
        simp [MoveOp.isDestroy, MoveOp.isMoveConstruct]
        omega

omit [DecidableEq K] in
/-- No object is alive once as many have been destroyed as were made, by construction or by a
move. -/
theorem dead_iff (hrun : C.machine.Run {} ops s) :
    s.Dead ↔ ops.countP MoveOp.isDestroy = s.made.length + ops.countP MoveOp.isMoveConstruct := by
  obtain ⟨alive, -, hmem, hcount⟩ := alive_count hrun
  have hdead : s.Dead ↔ alive = [] := by
    simp only [Objects.Dead, List.eq_nil_iff_forall_not_mem, hmem, Option.not_isSome_iff_eq_none]
  rw [hdead, ← List.length_eq_zero_iff]
  omega

/-- In a class whose moves copy, every object that is alive holds a handle, and every destruction
releases one. -/
structure Copied (C : Movable A W H K) (ops : List (MoveOp X A H)) (s : Objects X W H K) : Prop where
  single : ∀ {x w}, s.object x = some w → ∃ handle ∈ s.made, C.held w = [handle]
  count : (C.released s).length = ops.countP MoveOp.isDestroy
  known : ∀ {x handle}, (x, handle) ∈ C.released s → handle ∈ s.made
  nodup : s.made.Nodup

namespace Copied

omit [DecidableEq H] in
theorem place (h : C.Copied ops s) {args : A} (hheld : C.held w = [handle])
    (hnew : handle ∉ s.made) :
    C.Copied (ops ++ [.construct target args handle]) (s.place target w handle) where
  single {x v} hv := by
    rw [Objects.object_place] at hv
    split at hv
    next =>
      cases hv
      exact ⟨handle, List.mem_append_right _ (List.mem_singleton_self _), hheld⟩
    next =>
      obtain ⟨handle', hmade, hheld'⟩ := h.single hv
      exact ⟨handle', List.mem_append_left _ hmade, hheld'⟩
  count := by simpa [MoveOp.isDestroy] using h.count
  known hmem := List.mem_append_left _ (h.known hmem)
  nodup := by
    refine List.nodup_append.mpr ⟨h.nodup, by simp, fun a ha b hb heq => ?_⟩
    rw [List.mem_singleton] at hb
    exact hnew (hb ▸ heq ▸ ha)

omit [DecidableEq H] in
/-- A move puts into the two objects what was held before. -/
theorem relocate (hcop : C.Copies) (h : C.Copied ops s) (hop : op.isDestroy = false)
    (hw : s.object source = some w) :
    C.Copied (ops ++ [op]) (s.relocate source target w (C.moved w)) where
  single {x v} hv := by
    rw [Objects.object_relocate] at hv
    split at hv
    next =>
      cases hv
      exact h.single hw
    next =>
      split at hv
      next =>
        cases hv
        rw [hcop.copies]
        exact h.single hw
      next => exact h.single hv
  count := by simpa [hop] using h.count
  known hmem := h.known hmem
  nodup := h.nodup

omit [DecidableEq X] [DecidableEq H] in
/-- Calls that release nothing. -/
theorem call (h : C.Copied ops s) {calls : List (K × H)} (hcalls : C.releases calls = []) :
    C.Copied ops (s.call x calls) where
  single := h.single
  count := by simpa [hcalls] using h.count
  known hmem := h.known (by simpa [hcalls] using hmem)
  nodup := h.nodup

omit [DecidableEq H] in
theorem remove (h : C.Copied ops s) (hw : s.object target = some w) :
    C.Copied (ops ++ [.destroy target]) ((s.call target (C.destruct w)).remove target) := by
  obtain ⟨handle, hmade, hheld⟩ := h.single hw
  have hreleased : C.released ((s.call target (C.destruct w)).remove target) =
      C.released s ++ [(target, handle)] := by
    rw [released_remove, released_call]
    change C.released s ++ (C.held w).map _ = _
    rw [hheld]
    rfl
  refine ⟨fun {x v} hv => ?_, ?_, fun {x handle'} hmem => ?_, h.nodup⟩
  · rw [Objects.object_remove] at hv
    split at hv
    next => cases hv
    next => exact h.single hv
  · rw [hreleased, List.length_append, h.count]
    simp [MoveOp.isDestroy]
  · rw [hreleased, List.mem_append, List.mem_singleton] at hmem
    rcases hmem with hmem | hmem
    · exact h.known hmem
    · cases hmem
      exact hmade

/-- Where every handle is settled, there are as many releases as handles. -/
theorem length_released (h : C.Copied ops s) (hsettled : C.Settled ops s) :
    (C.released s).length = s.made.length := by
  have hperm : ((C.released s).map (·.2)).Perm s.made := by
    rw [List.perm_iff_count]
    intro handle
    have hcount : ((C.released s).map (·.2)).count handle =
        ((C.released s).filter fun release => release.2 = handle).length := by
      rw [List.count_eq_countP, List.countP_map, List.countP_eq_length_filter]
      congr 1
    rw [hcount, h.nodup.count]
    by_cases hmade : handle ∈ s.made
    · obtain ⟨x, -, hx⟩ := hsettled handle hmade
      rw [hx, if_pos hmade]
      rfl
    · rw [if_neg hmade, List.length_eq_zero_iff, List.filter_eq_nil_iff]
      rintro ⟨x, handle'⟩ hmem heq
      rw [decide_eq_true_eq] at heq
      exact hmade (heq ▸ h.known hmem)
  rw [← hperm.length_eq, List.length_map]

end Copied

/-- Every run of a class whose moves copy is one. -/
theorem Copies.copied (hcop : C.Copies) (hrun : C.machine.Run {} ops s) : C.Copied ops s := by
  induction hrun with
  | refl =>
    exact
      { single := fun h => by cases h
        count := rfl
        known := fun h => by cases h
        nodup := List.nodup_nil }
  | @tail t u ops op hrun _ hs ih =>
    cases step_does hs with
    | construct hdead hnew => exact ih.place (hcop.construct _ _) hnew
    | moveConstruct hne hdead hw => exact ih.relocate hcop rfl hw
    | selfAssign hw =>
      exact ⟨ih.single, by simpa [MoveOp.isDestroy] using ih.count, ih.known, ih.nodup⟩
    | moveAssign hne hv hw => exact (ih.call (hcop.silent _)).relocate hcop rfl hw
    | destroy hw => exact ih.remove hw

/-- **A class whose moves copy settles every handle exactly if nothing is moved**: a move
construction leaves one release too many, and an assignment one handle unreleased. -/
theorem Copies.settled_iff (hcop : C.Copies) (hrun : C.machine.Run {} ops s) (hdead : s.Dead) :
    C.Settled ops s ↔ C.machine.EveryStep {} (fun _ _ op => ¬ op.Moves) ops := by
  have hor := Machine.everyStep_or (I := fun ops => C.Tidy (titles ops))
    (J := fun ops t => (∃ handle, C.Lost handle t) ∨ 0 < ops.countP MoveOp.isMoveConstruct) .start
    (fun _ _ _ _ _ htidy hs hstill => htidy.step hcop.toLawful (Clean.of_not_moves hstill) hs)
    (fun ops t op u hrun htidy hs hmoves => ?_)
    (fun _ _ _ _ _ hspoilt hs =>
      hspoilt.imp (fun ⟨handle, hlost⟩ => ⟨handle, hlost.step hcop.toLawful hs⟩) fun hpos => ?_)
    hrun
  · rcases hor with ⟨hevery, htidy⟩ | ⟨hevery, ⟨handle, hlost⟩ | hpos⟩
    · exact iff_of_true (htidy.settled hdead) hevery
    · exact iff_of_false hlost.not_settled hevery
    · refine iff_of_false (fun hsettled => ?_) hevery
      have hcopied := hcop.copied hrun
      have hlength := hcopied.length_released hsettled
      rw [hcopied.count, (dead_iff hrun).mp hdead] at hlength
      omega
  · rw [not_not] at hmoves
    cases op with
    | construct target args handle => cases hmoves
    | moveConstruct target source => exact .inr (by simp [MoveOp.isMoveConstruct])
    | moveAssign target source =>
      have hdoes : C.Does t (.moveAssign target source) u := step_does hs
      cases hdoes with
      | selfAssign hw => exact absurd rfl hmoves
      | moveAssign hne hv hw =>
        refine .inl (htidy.lost hcop.toLawful hne hv ?_ hs)
        obtain ⟨handle, -, hheld⟩ := (hcop.copied hrun).single hv
        rw [hcop.silent, hheld]
        exact (List.cons_ne_nil _ _).symm
    | destroy target => cases hmoves
  · rw [List.countP_append]
    omega

end Movable

end DocaCpp
