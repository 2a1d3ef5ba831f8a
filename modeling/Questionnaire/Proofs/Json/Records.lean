import Questionnaire.Json.Shape
import Questionnaire.Proofs.Outcome

/-!
Records that are read from objects.

A record is built from the members of an object as soon as each of them is a field and passes its check:
`readRecord_object`.
-/

namespace Questionnaire

theorem AnswerType.ofName?_name (t : AnswerType) : ofName? t.name = some t := by
  cases t <;> decide

namespace Json

variable {α : Type} {check : String → Json → Shaped Unit} {members : List (String × Json)}
  {record : String} {names : List String} {build : Fields → Shaped α}

theorem readAnswerType_name (t : AnswerType) : readAnswerType (.string t.name) = .ok t := by
  simp only [readAnswerType, readVariant, t.ofName?_name]

theorem checkFields_ok (passes : ∀ p ∈ members, check p.1 p.2 = .ok ()) :
    checkFields check members = .ok () := by
  induction members with
  | nil => rfl
  | cons p rest ih =>
    rw [List.forall_mem_cons] at passes
    exact bind_ok.mpr ⟨(), passes.1, ih passes.2⟩

theorem readRecord_object (fields : ∀ p ∈ members, p.1 ∈ names)
    (passes : ∀ p ∈ members, check p.1 p.2 = .ok ()) :
    readRecord record names false check build (.object members) =
      build ⟨record, names, members, false⟩ := by
  have listed {p : String × Json} (member : p ∈ members) : names.contains p.1 = true :=
    List.contains_iff_mem.mpr (fields p member)
  have checked : checkFields (fun name value =>
      if names.contains name then check name value
      else if false = true then .error (.unknownField name names) else .ok ()) members = .ok () :=
    checkFields_ok fun p member => by rw [if_pos (listed member), passes p member]
  have kept : members.filter (fun p => names.contains p.1) = members :=
    List.filter_eq_self.mpr fun p member => listed member
  calc readRecord record names false check build (.object members)
    _ = build ⟨record, names, members.filter fun p => names.contains p.1, false⟩ := by
      simp only [readRecord, checked]
      rfl
    _ = build ⟨record, names, members, false⟩ := by rw [kept]

theorem readRecord_ok {closed : Bool} {j : Json} {a : α}
    (h : readRecord record names closed check build j = .ok a) : ∃ fields, build fields = .ok a := by
  unfold readRecord at h
  split at h
  · obtain ⟨_, _, h⟩ := bind_ok.mp h
    exact ⟨_, h⟩
  · obtain ⟨_, _, h⟩ := bind_ok.mp h
    obtain ⟨result, built, h⟩ := bind_ok.mp h
    obtain ⟨_, _, h⟩ := bind_ok.mp h
    cases pure_ok.mp h
    exact ⟨_, built⟩
  · cases h

theorem readList_map {β : Type} {read : Json → Shaped α} {write : β → Json} {back : β → α}
    {xs : List β} (reads : ∀ x ∈ xs, read (write x) = .ok (back x)) :
    readList read (.array (xs.map write)) = .ok (xs.map back) := by
  refine mapM_ok.mpr ?_
  rw [List.forall₂_map_left_iff, List.forall₂_map_right_iff, List.forall₂_same]
  exact reads

end Json

end Questionnaire
