import Questionnaire.Value.Coercion

/-!
What reading a text gives.

A text is either one of the five things that can be read out of texts, or it is kept as it is.
-/

namespace Questionnaire.Value

variable {v : Value} {s : String} {t : AnswerType}

theorem read?_type {cs : List Char} (h : read? cs = some v) :
    v.type ≠ .text ∧ v.type ≠ .list ∧ v.type ≠ .unknown := by
  simp only [read?, Option.orElse_eq_orElse, Option.orElse_eq_or, Option.or_eq_some_iff,
    Option.map_eq_some_iff] at h
  rcases h with ⟨_, _, rfl⟩ | ⟨_, ⟨_, _, rfl⟩ | ⟨_, ⟨_, _, rfl⟩ | ⟨_, ⟨_, _, rfl⟩ | ⟨_, _, _, rfl⟩⟩⟩⟩
    <;> simp [type]

theorem ofText_cases (s : String) :
    ofText s = text s ∨ ((ofText s).type ≠ .text ∧ (ofText s).type ≠ .list ∧
      (ofText s).type ≠ .unknown) := by
  cases h : read? (Text.trim s.toList) with
  | none => simp [ofText, h]
  | some v =>
    right
    simpa [ofText, h] using read?_type h

theorem ofText_type_text (h : (ofText s).type = .text) : ofText s = text s := by
  rcases ofText_cases s with kept | ⟨other, _⟩
  · exact kept
  · exact absurd h other

theorem ofText_type_ne_unknown (s : String) : (ofText s).type ≠ .unknown := by
  rcases ofText_cases s with kept | ⟨_, _, known⟩
  · simp [kept, type]
  · exact known

theorem ofText_isUnknown (s : String) : (ofText s).isUnknown = false := by
  rw [Bool.eq_false_iff, ne_eq, isUnknown_iff]
  exact ofText_type_ne_unknown s

theorem same_refl (v : Value) : v.same v = true := by
  cases v <;> simp [same, Decimal.same]

theorem same_text : v.same (text s) = true ↔ v = text s := by
  cases v <;> simp [same]

/-! ### Coercion -/

theorem coerce?_self (v : Value) : v.coerce? v.type = some v := by
  unfold coerce?
  rw [if_pos (Or.inl rfl)]

theorem coerce?_text (known : v.isUnknown = false) : v.coerce? .text = some (text v.toText) := by
  unfold coerce?
  cases v with
  | unknown => cases known
  | text s => rfl
  | _ => rfl

/-- A text is read as another type exactly if it shows that type. -/
theorem coerce?_of_text (other : t ≠ .text) (concrete : t ≠ .unknown) :
    (text s).coerce? t = if (ofText s).type = t then some (ofText s) else none := by
  unfold coerce?
  rw [if_neg (by simpa [type, concrete] using Ne.symm other)]
  cases t with
  | text => exact absurd rfl other
  | _ => rfl

variable {w : Value}

theorem type_of_coerce? (concrete : t ≠ .unknown) (h : v.coerce? t = some w) : w.type = t := by
  unfold coerce? at h
  split at h
  · rename_i same
    cases h
    exact same.resolve_right concrete
  · split at h
    · cases h
    · cases h
      rfl
    · split at h
      · rename_i read
        cases h
        exact read
      · cases h
    · cases h
      rfl
    · cases h
      rfl
    · cases h

theorem coerce?_isSome (known : v.type ≠ .unknown) (fits : v.type = t ∨ t = .text) :
    (v.coerce? t).isSome := by
  rcases fits with rfl | rfl
  · rw [coerce?_self]
    rfl
  · rw [coerce?_text (Bool.eq_false_iff.mpr (mt isUnknown_iff.mp known))]
    rfl

theorem coerce?_known (known : v.isUnknown = false) (h : v.coerce? t = some w) :
    w.isUnknown = false := by
  by_cases any : t = .unknown
  · subst any
    unfold coerce? at h
    rw [if_pos (Or.inr rfl)] at h
    cases h
    exact known
  · rw [Bool.eq_false_iff, ne_eq, isUnknown_iff, type_of_coerce? any h]
    exact any

end Questionnaire.Value
