/-
# Paths do not see each other

The sessions of a server share one storage, so what one client does could show in the service of
another.  It does not as long as the two ask for different paths: leave every client and every
endpoint of the other paths out of a run, and what remains is a run, of a server that has only the
endpoints of these paths (`paths_independent`).  So for a set of paths there is nothing to observe
that a server of their own could not have done.

The storage's part is that an answer about a path does not depend on the entries of another
(`answer_only`, `answer_elsewhere`); the sessions' part is that a session asks the storage for the
path of its client and for no other (`Linked.asks`), which needs a path that fits its length words.
-/
import DocaCpp.Net.Submission
import DocaCpp.Storage.Independence
import Mathlib.Data.List.Find

namespace DocaCpp

/-! ## 1. A part of the storage -/

namespace RdmaEndpointStorage

variable {storage storage' : RdmaEndpointStorage} {P : RdmaEndpointPath → Bool}
  {path : RdmaEndpointPath} {flag : Bool}

/-- The entries of some paths. -/
def only (storage : RdmaEndpointStorage) (P : RdmaEndpointPath → Bool) : RdmaEndpointStorage where
  endpointsMap := storage.endpointsMap.filter fun x => P x.2.endpoint.path
  keyed := fun x hx => storage.keyed x (List.mem_of_mem_filter hx)
  nodup := storage.nodup.sublist (List.filter_sublist.map Prod.fst)

/-- A scan for one of the paths finds what it finds in the whole storage. -/
theorem any_only (storage : RdmaEndpointStorage) (test : StorageEntry → Bool)
    (htest : ∀ x, test x = true → P x.2.endpoint.path = true) :
    (storage.only P).endpointsMap.any test = storage.endpointsMap.any test := by
  rw [only, List.any_filter]
  refine congrArg storage.endpointsMap.any (funext fun x => ?_)
  cases hx : test x with
  | false => rw [Bool.and_false]
  | true => rw [htest x hx, Bool.and_true]

theorem getEndpoint_only (hP : P path = true) (type : RdmaEndpointType) :
    (storage.only P).getEndpoint (makeEndpointId path type)
      = storage.getEndpoint (makeEndpointId path type) := by
  have hfind : (storage.only P).endpointsMap.find? (fun x => x.1 = makeEndpointId path type)
      = storage.endpointsMap.find? fun x => x.1 = makeEndpointId path type := by
    rw [only, List.find?_filter]
    refine List.find?_congr fun x hx => ?_
    by_cases hid : x.1 = makeEndpointId path type
    · have hpath : x.2.endpoint.path = path :=
        makeEndpointId_path ((storage.keyed x hx).symm.trans hid)
      simp [hid, hpath, hP]
    · simp [hid]
  rw [getEndpoint, getEndpoint, hfind]

theorem tryLock_only (hP : P path = true) :
    ((storage.only P).tryLockEndpointsByPath path).1 = (storage.tryLockEndpointsByPath path).1 := by
  simp only [tryLockEndpointsByPath, (tryLockLoop_answer path _ false false).1,
    (tryLockLoop_answer path _ false false).2]
  rw [any_only storage _ fun x hx => ?_, any_only storage _ fun x hx => ?_]
  · rw [of_decide_eq_true hx, hP]
  · rw [of_decide_eq_true (Bool.and_eq_true_iff.mp hx).1, hP]

theorem unlock_only (hP : P path = true) :
    ((storage.only P).unlockEndpointsByPath path).1 = (storage.unlockEndpointsByPath path).1 := by
  simp only [unlockEndpointsByPath, unlockLoop_found]
  rw [any_only storage _ fun x hx => ?_]
  rw [of_decide_eq_true hx, hP]

/-- The flags of one of the paths, overwritten. -/
theorem only_setLocked (storage : RdmaEndpointStorage) :
    (storage.setLocked path flag).only P = (storage.only P).setLocked path flag := by
  refine ext_map ?_
  simp only [only, setLocked, List.filter_map]
  refine congrArg _ (List.filter_congr fun x _ => ?_)
  rw [Function.comp_apply, flagEntry_endpoint]

/-- The flags of another path, overwritten. -/
theorem only_setLocked_other (hP : P path = false) :
    (storage.setLocked path flag).only P = storage.only P := by
  rw [only_setLocked]
  refine ext_map ((List.map_congr_left fun x hx => ?_).trans (List.map_id _))
  refine flagEntry_of_ne fun hpath => ?_
  have hx' := (List.mem_filter.mp hx).2
  rw [hpath, hP] at hx'
  cases hx'

end RdmaEndpointStorage

/-- What an event asks of the storage concerns this path. -/
def SessionEvent.For (path : RdmaEndpointPath) (ev : SessionEvent) : Prop :=
  match ev.op with
  | .getEndpoint id => ∃ type, id = makeEndpointId path type
  | .tryLockEndpointsByPath path' | .unlockEndpointsByPath path' => path' = path
  | _ => True

section Answer

variable [Platform] {storage storage' : RdmaEndpointStorage} {P : RdmaEndpointPath → Bool}
  {path : RdmaEndpointPath} {ev : SessionEvent}

/-- **An answer about one of the paths** is the same in their part of the storage. -/
theorem RdmaEndpointStorage.answer_only (hfor : ev.For path) (hP : P path = true) :
    (storage.only P).answer ev = (storage.answer ev).map fun storage' => storage'.only P := by
  obtain ⟨op, r⟩ := ev
  cases op with
  | getEndpoint id =>
    obtain ⟨type, rfl⟩ := hfor
    simp only [answer, getEndpoint_only hP type]
    split <;> rfl
  | tryLockEndpointsByPath path' =>
    obtain rfl : path' = path := hfor
    simp only [answer, tryLock_only hP, tryLockEndpointsByPath_snd, ← only_setLocked]
    split <;> rfl
  | unlockEndpointsByPath path' =>
    obtain rfl : path' = path := hfor
    simp only [answer, unlock_only hP, unlockEndpointsByPath_snd, ← only_setLocked]
    split <;> rfl
  | _ =>
    simp only [answer]
    split <;> rfl

/-- **An answer about another path** leaves that part of the storage as it is. -/
theorem RdmaEndpointStorage.answer_elsewhere (hfor : ev.For path) (hP : P path = false)
    (h : storage.answer ev = some storage') : storage'.only P = storage.only P := by
  obtain ⟨op, r⟩ := ev
  cases op with
  | tryLockEndpointsByPath path' =>
    obtain rfl : path' = path := hfor
    rw [(answer_tryLock h).2, only_setLocked_other hP]
  | unlockEndpointsByPath path' =>
    obtain rfl : path' = path := hfor
    rw [answer_unlock h, only_setLocked_other hP]
  | _ => rw [answer_other h (by simp) (by simp)]

end Answer

/-! ## 2. What a session asks -/

variable [Platform]

/-- **A session asks the storage for the path of its client.** -/
theorem Linked.asks {endpoint : RdmaEndpoint} {slog : ServerLog} {clog : ClientLog}
    {f f' : ServerPhase} {g : ClientPhase} {c : Connection} {ev : SessionEvent}
    (hl : Linked endpoint slog clog f g c) (hs : ServerStep f ev f') : ev.For endpoint.path := by
  cases hs with
  | lookup request served | lookupFailed request err =>
    obtain ⟨⟨-, -, rfl⟩, -⟩ := hl.consumed
    exact ⟨_, rfl⟩
  | locked request served descriptor | granted request served descriptor
  | lockFailed request served descriptor flag err =>
    obtain ⟨⟨-, -, rfl⟩, -⟩ := hl.consumed
    rfl
  | unlock request err =>
    obtain ⟨-, rfl⟩ := hl.consumed
    rfl
  | _ => trivial

/-! ## 3. Some paths of a network -/

variable {ι : Type} [DecidableEq ι]

/-- The clients of some paths. -/
abbrev ClientsOf (endpoints : ι → RdmaEndpoint) (P : RdmaEndpointPath → Bool) : Type :=
  {i : ι // P (endpoints i).path = true}

/-- A network with the entries and the clients of some paths. -/
def Network.only (n : Network ι) (endpoints : ι → RdmaEndpoint) (P : RdmaEndpointPath → Bool) :
    Network (ClientsOf endpoints P) :=
  ⟨n.storage.only P, fun i => n.conn i⟩

/-- What of a step concerns these clients. -/
def NetworkLabel.within (endpoints : ι → RdmaEndpoint) (P : RdmaEndpointPath → Bool) :
    NetworkLabel ι → Option (NetworkLabel (ClientsOf endpoints P))
  | tick milliseconds => some (.tick milliseconds)
  | conn i l => if h : P (endpoints i).path = true then some (.conn ⟨i, h⟩ l) else none

section Isolation

variable {endpoints : ι → RdmaEndpoint} {P : RdmaEndpointPath → Bool} {n n' : Network ι} {i : ι}
  {l : ConnectionLabel} {ls : List (NetworkLabel ι)} {storage storage' : RdmaEndpointStorage}

/-- What a connection asks the storage concerns this path. -/
def ConnectionLabel.For (path : RdmaEndpointPath) (l : ConnectionLabel) : Prop :=
  ∀ ev, l = .server ev → ev.For path

theorem Network.answer_only {path : RdmaEndpointPath} (hfor : l.For path) (hP : P path = true) :
    Network.answer (storage.only P) l
      = (Network.answer storage l).map fun storage' => storage'.only P := by
  cases l with
  | server ev => exact RdmaEndpointStorage.answer_only (hfor ev rfl) hP
  | _ => rfl

theorem Network.answer_elsewhere {path : RdmaEndpointPath} (hfor : l.For path)
    (hP : P path = false) (h : Network.answer storage l = some storage') :
    storage'.only P = storage.only P := by
  cases l with
  | tick milliseconds => cases h
  | server ev => exact RdmaEndpointStorage.answer_elsewhere (hfor ev rfl) hP h
  | _ =>
    cases h
    rfl

omit [Platform] [DecidableEq ι] in
theorem Network.ext_conn {m m' : Network ι} (hstorage : m.storage = m'.storage)
    (hconn : ∀ i, m.conn i = m'.conn i) : m = m' := by
  cases m
  cases m'
  exact congrArg₂ Network.mk hstorage (funext hconn)

/-- What the storage answers a connection in a run. -/
theorem label_for (hrun : (network endpoints).Run (Network.start ι storage) ls n)
    (hshort : Short (endpoints i)) (hstep : (n.conn i).step (endpoints i) l = some (n'.conn i)) :
    l.For (endpoints i).path := by
  rintro ev rfl
  obtain ⟨f, g, hlinked⟩ := linked_run hshort (network_connectionRun i hrun)
  obtain ⟨s, -, hr, -⟩ := Connection.step_server hstep
  rw [hlinked.server] at hr
  obtain ⟨f', -, hs⟩ := server_refines.step f ev _ hr
  exact hlinked.asks hs

/-- **What a run does on some paths** is a run of a server that has only their endpoints and their
clients. -/
theorem network_only (hrun : (network endpoints).Run (Network.start ι storage) ls n)
    (hshort : ∀ i, Short (endpoints i)) (P : RdmaEndpointPath → Bool) :
    (network fun i : ClientsOf endpoints P => endpoints i).Run
        (Network.start (ClientsOf endpoints P) (storage.only P))
        (ls.filterMap (NetworkLabel.within endpoints P)) (n.only endpoints P) := by
  refine Machine.RunWith.project (fun n : Network ι => n.only endpoints P)
    (NetworkLabel.within endpoints P) ?_ hrun
  rintro ls n l n' hrun - (hstep : n.step endpoints l = some n')
  cases l with
  | tick milliseconds =>
    cases hstep
    exact ⟨trivial, rfl⟩
  | conn i l =>
    obtain ⟨ha, hc, ho⟩ := Network.step_conn hstep
    have hfor := label_for hrun (hshort i) hc
    by_cases hP : P (endpoints i).path = true
    · simp only [NetworkLabel.within, dif_pos hP]
      refine ⟨trivial, ?_⟩
      let part : ClientsOf endpoints P → RdmaEndpoint := fun j => endpoints j
      have hc' : ((n.only endpoints P).conn ⟨i, hP⟩).step (part ⟨i, hP⟩) l = some (n'.conn i) := hc
      have ha' : Network.answer (n.only endpoints P).storage l = some (n'.only endpoints P).storage := by
        change Network.answer (n.storage.only P) l = _
        rw [Network.answer_only hfor hP, ha]
        rfl
      obtain ⟨m, hm, hstorage, hconn, hkeeps⟩ := Network.step_of_conn ha' hc'
      refine hm.trans (congrArg some (Network.ext_conn hstorage fun j => ?_))
      by_cases hj : j = ⟨i, hP⟩
      · rw [hj, hconn]
        rfl
      · rw [hkeeps j hj]
        exact (ho j fun hji => hj (Subtype.ext hji)).symm
    · simp only [NetworkLabel.within, dif_neg hP]
      have hstorage := Network.answer_elsewhere hfor (Bool.eq_false_iff.mpr hP) ha
      refine Network.ext_conn hstorage fun j => ho j fun hji => ?_
      exact hP (hji ▸ j.2)

omit [Platform] in
/-- Nothing that happens to these clients is left out. -/
theorem historyOf_within (P : RdmaEndpointPath → Bool) (ls : List (NetworkLabel ι))
    (i : ClientsOf endpoints P) :
    historyOf i (ls.filterMap (NetworkLabel.within endpoints P)) = historyOf i.1 ls := by
  rw [historyOf, historyOf, List.filterMap_filterMap]
  refine congrArg (List.filterMap · ls) (funext fun l => ?_)
  cases l with
  | tick milliseconds => rfl
  | conn j l =>
    by_cases hij : j = i.1
    · subst hij
      have hP : P (endpoints i.1).path = true := i.2
      simp [NetworkLabel.within, NetworkLabel.on, hP]
    · by_cases hP : P (endpoints j).path = true
      · have hne : (⟨j, hP⟩ : ClientsOf endpoints P) ≠ i := fun h => hij (congrArg Subtype.val h)
        simp [NetworkLabel.within, NetworkLabel.on, hP, hij, hne]
      · simp [NetworkLabel.within, NetworkLabel.on, hP, hij]

/-- **What a server of some paths does**, a server of all does, whose other clients wait. -/
theorem network_whole {ks : List (NetworkLabel (ClientsOf endpoints P))}
    {m : Network (ClientsOf endpoints P)} (hshort : ∀ i, Short (endpoints i))
    (hrun : (network fun i : ClientsOf endpoints P => endpoints i).Run
      (Network.start (ClientsOf endpoints P) (storage.only P)) ks m) :
    ∃ ls n, (network endpoints).Run (Network.start ι storage) ls n ∧
      ls.filterMap (NetworkLabel.within endpoints P) = ks ∧ n.only endpoints P = m := by
  induction hrun with
  | refl => exact ⟨[], Network.start ι storage, .refl _, rfl, rfl⟩
  | @tail m m' ks k hrun _ hstep ih =>
    obtain ⟨ls, n, hn, rfl, rfl⟩ := ih
    cases k with
    | tick milliseconds =>
      cases hstep
      refine ⟨ls ++ [.tick milliseconds], _, .tail hn trivial rfl, ?_, rfl⟩
      rw [List.filterMap_append]
      rfl
    | conn i l =>
      have hstep' : Network.step (fun i : ClientsOf endpoints P => endpoints i)
          (n.only endpoints P) (.conn i l) = some m' := hstep
      obtain ⟨ha, hc, ho⟩ := Network.step_conn hstep'
      have hfor : l.For (endpoints i).path :=
        label_for (ι := ClientsOf endpoints P) (i := i) hrun (hshort i) hc
      have ha' : (Network.answer n.storage l).map (fun storage' => storage'.only P)
          = some m'.storage := by
        rw [← Network.answer_only hfor i.2]
        exact ha
      obtain ⟨storage', hanswer, hstorage'⟩ := Option.map_eq_some_iff.mp ha'
      have hc' : (n.conn i).step (endpoints i) l = some (m'.conn i) := hc
      obtain ⟨n', hn', hstorage, hconn, hkeeps⟩ := Network.step_of_conn hanswer hc'
      refine ⟨ls ++ [NetworkLabel.conn i.1 l], n', .tail hn trivial hn', ?_, ?_⟩
      · rw [List.filterMap_append, List.filterMap_cons, NetworkLabel.within, dif_pos i.2]
        rfl
      · refine Network.ext_conn ?_ fun j => ?_
        · rw [← hstorage', ← hstorage]
          rfl
        · by_cases hj : j = i
          · rw [hj]
            exact hconn
          · rw [ho j hj]
            exact hkeeps j fun hji => hj (Subtype.ext hji)

/-- **Paths do not see each other**: what a server can do on some paths, to their entries and to
everything that happens to their clients, is what it could do if it had no others. -/
theorem paths_independent (hshort : ∀ i, Short (endpoints i)) (storage : RdmaEndpointStorage)
    (P : RdmaEndpointPath → Bool) :
    (∀ ks m, (network fun i : ClientsOf endpoints P => endpoints i).Run
        (Network.start (ClientsOf endpoints P) (storage.only P)) ks m ↔
      ∃ ls n, (network endpoints).Run (Network.start ι storage) ls n ∧
        ls.filterMap (NetworkLabel.within endpoints P) = ks ∧ n.only endpoints P = m) ∧
      ∀ (ls : List (NetworkLabel ι)) (i : ClientsOf endpoints P),
        historyOf i (ls.filterMap (NetworkLabel.within endpoints P)) = historyOf i.1 ls := by
  refine ⟨fun ks m => ⟨network_whole hshort, ?_⟩, historyOf_within P⟩
  rintro ⟨ls, n, hn, rfl, rfl⟩
  exact network_only hn hshort P

end Isolation

/-- An endpoint of another path. -/
def otherEndpoint : RdmaEndpoint := ⟨[47], .write, some 1, some 1⟩

/-- Both registered. -/
def pairStorage : RdmaEndpointStorage :=
  (sampleWriteStorage.registerEndpoint (some otherEndpoint)).2

/-- A client for each. -/
def pairEndpoints (i : Bool) : RdmaEndpoint := if i then otherEndpoint else sampleWriteEndpoint

/-- Both ask, and both are granted their locks. -/
def pairLabels : List (NetworkLabel Bool) :=
  (asking sampleWriteEndpoint).map (.via false) ++ (asking otherEndpoint).map (.via true) ++
    (granting sampleWriteEndpoint [7]).map (.via false) ++
    (granting otherEndpoint [7]).map (.via true)

omit [Platform] in
theorem paths_independent_sample :
    letI := Platform.littleEndian
    ∃ n, (network pairEndpoints).exec (Network.start Bool pairStorage) pairLabels = some n ∧
      (network fun i : ClientsOf pairEndpoints (· = [47]) => pairEndpoints i).Run
        (Network.start _ (pairStorage.only (· = [47])))
        (pairLabels.filterMap (NetworkLabel.within pairEndpoints (· = [47])))
        (n.only pairEndpoints (· = [47])) := by
  let _ := Platform.littleEndian
  have hsome : ((network pairEndpoints).exec (Network.start Bool pairStorage) pairLabels).isSome
      = true := by decide +kernel
  obtain ⟨n, hn⟩ := Option.isSome_iff_exists.mp hsome
  have hshort : ∀ i, Short (pairEndpoints i) := by decide
  exact ⟨n, hn, ((paths_independent hshort pairStorage (· = [47])).1 _ _).mpr
    ⟨pairLabels, n, Machine.exec_run hn, rfl, rfl⟩⟩

end DocaCpp
