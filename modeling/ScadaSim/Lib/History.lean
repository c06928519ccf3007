import Mathlib.Data.List.Infix

/-!
# Conditions on a history

`Each C l` says of a history `l` of events, oldest first, that each of them
meets the condition `C` at the history before it. A system that only appends to
its history keeps `Each C` as long as the appended events meet `C`.
-/

namespace Lib

variable {ε : Type} {C : List ε → ε → Prop}

def Each (C : List ε → ε → Prop) (l : List ε) : Prop :=
  ∀ past e, past ++ [e] <+: l → C past e

theorem each_nil : Each C [] := by
  intro past e h
  simp at h

theorem each_concat {l : List ε} {e : ε} : Each C (l ++ [e]) ↔ Each C l ∧ C l e := by
  constructor
  · intro h
    have hold : Each C l := fun past e' hpast => h past e' (hpast.trans (List.prefix_append l [e]))
    exact ⟨hold, h l e (List.prefix_refl _)⟩
  · rintro ⟨hold, hnew⟩ past e' hpast
    rcases List.prefix_concat_iff.mp hpast with heq | hpast
    · obtain ⟨rfl, hlast⟩ := List.append_inj' heq rfl
      cases hlast
      exact hnew
    · exact hold past e' hpast

/-- Events that meet the condition at any history make no difference. -/
theorem each_append_of_forall {l l' : List ε} (h : ∀ e ∈ l', ∀ past, C past e) :
    Each C (l ++ l') ↔ Each C l := by
  induction l' generalizing l with
  | nil => rw [List.append_nil]
  | cons e rest ih =>
      have hrest : ∀ e' ∈ rest, ∀ past, C past e' := fun e' he' => h e' (List.mem_cons_of_mem _ he')
      rw [List.append_cons, ih hrest, each_concat]
      exact and_iff_left (h e List.mem_cons_self l)

end Lib
