/-
# Destruction

The destructor of an object runs its body and then destroys the members, the one that was declared
last first.  `Object` keeps of an object what its destruction calls, and `destroyAll_append` is the
order: members destroy what was declared behind them before themselves.

Rules about the order of calls are rules about the history behind each of them.
-/
import DocaCpp.Lib.History

namespace DocaCpp

/-! ## 1. Objects -/

/-- An object: what the body of its destructor calls, and its members in the order in which they are
declared. -/
inductive Object (κ : Type*)
  | mk (body : List κ) (members : List (Object κ))

namespace Object

variable {κ : Type*}

mutual

/-- What the destruction of an object calls. -/
def destroy : Object κ → List κ
  | mk body members => body ++ destroyAll members

/-- What the destruction of members calls. -/
def destroyAll : List (Object κ) → List κ
  | [] => []
  | m :: members => destroyAll members ++ destroy m

end

/-- An object whose destruction calls nothing. -/
def silent : Object κ := mk [] []

/-- What a pointer owns, which is nothing if it is null. -/
def owned (pointer : Bool) (object : Object κ) : Object κ := if pointer then object else silent

@[simp] theorem destroy_mk (body : List κ) (members : List (Object κ)) :
    (mk body members).destroy = body ++ destroyAll members := by
  rw [destroy]

@[simp] theorem destroyAll_nil : destroyAll ([] : List (Object κ)) = [] := by rw [destroyAll]

@[simp] theorem destroyAll_cons (m : Object κ) (members : List (Object κ)) :
    destroyAll (m :: members) = destroyAll members ++ m.destroy := by
  rw [destroyAll]

@[simp] theorem destroy_silent : (silent : Object κ).destroy = [] := by simp [silent]

theorem destroy_owned (pointer : Bool) (object : Object κ) :
    (owned pointer object).destroy = if pointer then object.destroy else [] := by
  cases pointer <;> simp [owned]

/-- **The order of destruction**: what is declared later is destroyed earlier. -/
theorem destroyAll_append (members members' : List (Object κ)) :
    destroyAll (members ++ members') = destroyAll members' ++ destroyAll members := by
  induction members with
  | nil => simp
  | cons m members ih => simp [ih]

end Object

/-! ## 2. Rules about the order -/

section Order

variable {κ : Type*} {calls front : List κ} {c d : κ}

/-- `c` is called only after `d` has been. -/
def OnlyAfter (c d : κ) (calls : List κ) : Prop :=
  AtEvery (fun history call => call = c → d ∈ history) calls

/-- No such call is made once `d` has been called. -/
def NeverAfter (P : κ → Prop) (d : κ) (calls : List κ) : Prop :=
  AtEvery (fun history call => P call → d ∉ history) calls

/-- A call that is made in front of every other one breaks the rule. -/
theorem not_onlyAfter (hfront : front <+: calls) (hc : c ∈ front) (hd : d ∉ front) :
    ¬ OnlyAfter c d calls := by
  intro h
  obtain ⟨pre, post, rfl⟩ := List.append_of_mem hc
  have hpre : pre ++ [c] <+: calls := by
    refine List.IsPrefix.trans ?_ hfront
    exact ⟨post, by simp⟩
  exact hd (List.mem_append_left _ (h pre c hpre rfl))

/-- A call that is made behind another one breaks the rule. -/
theorem not_neverAfter {P : κ → Prop} (hfront : front ++ [c] <+: calls) (hc : P c)
    (hd : d ∈ front) : ¬ NeverAfter P d calls := fun h => h front c hfront hc hd

/-- A rule about a call is a condition on the occurrences of that call. -/
theorem atEvery_call_iff {P : Prop} :
    AtEvery (fun _ call => call = c → P) calls ↔ (c ∈ calls → P) := by
  constructor
  · intro h hc
    obtain ⟨pre, post, rfl⟩ := List.append_of_mem hc
    exact h pre c ⟨post, by simp⟩ rfl
  · rintro h pre call hpre rfl
    exact h (hpre.subset (by simp))

end Order

end DocaCpp
