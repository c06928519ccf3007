import Mathlib.Data.List.AList
import Mathlib.Data.List.Perm.Basic

/-!
# Objects and an index over them

A program keeps objects under their addresses, `objs`, and a second table that
finds them by a key of theirs, `idx`, with an entry that leads back to the
object. `Indexed` says that the two describe the same objects:

* every object has its entry, under its key;
* every entry belongs to an object.

The operations on both tables at once keep `Indexed`, and `Indexed.length_eq`
derives that the tables are of one size.
-/

namespace Lib

section AList

variable {α : Type} {β : α → Type} [DecidableEq α]

theorem length_keys_insert_of_notMem {m : AList β} {a : α} (b : β a) (h : a ∉ m) :
    (m.insert a b).keys.length = m.keys.length + 1 := by
  rw [AList.keys_insert, List.erase_of_not_mem (fun hmem => h (AList.mem_keys.mpr hmem))]
  rfl

theorem length_keys_erase {m : AList β} {a : α} (h : a ∈ m) :
    (m.erase a).keys.length + 1 = m.keys.length := by
  have hmem : a ∈ m.keys := AList.mem_keys.mp h
  have hpos := List.length_pos_of_mem hmem
  rw [AList.keys_erase, List.length_erase_of_mem hmem]
  omega

theorem mem_of_lookup {m : AList β} {a : α} {b : β a} (h : m.lookup a = some b) : a ∈ m :=
  AList.lookup_isSome.mp (by rw [h]; rfl)

section NonDependent

variable {P O : Type} [DecidableEq P] {Q : O → Prop} {m : AList fun _ : P => O}

theorem forall_lookup_empty : ∀ q x, (∅ : AList fun _ : P => O).lookup q = some x → Q x := by
  intro q x hx
  simp at hx

theorem forall_lookup_insert (h : ∀ q x, m.lookup q = some x → Q x) (p : P) {o : O} (ho : Q o) :
    ∀ q x, (m.insert p o).lookup q = some x → Q x := by
  intro q x hx
  by_cases hq : q = p
  · subst hq
    rw [AList.lookup_insert] at hx
    cases hx
    exact ho
  · exact h q x ((AList.lookup_insert_ne hq).symm.trans hx)

theorem forall_lookup_erase (h : ∀ q x, m.lookup q = some x → Q x) (p : P) :
    ∀ q x, (m.erase p).lookup q = some x → Q x := by
  intro q x hx
  by_cases hq : q = p
  · subst hq
    simp at hx
  · exact h q x ((AList.lookup_erase_ne hq).symm.trans hx)

end NonDependent

end AList

variable {P K O I : Type} [DecidableEq P] [DecidableEq K]

/-- `idx` finds the objects `objs` by their `key`; the entry for the object `o` at
`p` is `info p o`. -/
structure Indexed (key : O → K) (info : P → O → I) (objs : AList fun _ : P => O)
    (idx : AList fun _ : K => I) : Prop where
  entry : ∀ p o, objs.lookup p = some o → idx.lookup (key o) = some (info p o)
  object : ∀ k i, idx.lookup k = some i → ∃ p o, objs.lookup p = some o ∧ key o = k ∧ i = info p o

namespace Indexed

variable {key : O → K} {info : P → O → I} {objs : AList fun _ : P => O} {idx : AList fun _ : K => I}

theorem empty (key : O → K) (info : P → O → I) : Indexed key info ∅ ∅ where
  entry := by
    intro p o h
    simp at h
  object := by
    intro k i h
    simp at h

/-- Two objects with one key are one, if entries tell addresses apart. -/
theorem eq_of_key (h : Indexed key info objs idx)
    (hinfo : ∀ p o p' o', info p o = info p' o' → p = p') {p p' : P} {o o' : O}
    (ho : objs.lookup p = some o) (ho' : objs.lookup p' = some o') (hkey : key o = key o') :
    p = p' := by
  have he := h.entry p o ho
  rw [hkey, h.entry p' o' ho'] at he
  exact (hinfo _ _ _ _ (Option.some.inj he)).symm

theorem insert (h : Indexed key info objs idx) {p : P} {o : O} (hp : p ∉ objs)
    (hkey : key o ∉ idx) : Indexed key info (objs.insert p o) (idx.insert (key o) (info p o)) where
  entry := by
    intro p' o' ho'
    by_cases hpp : p' = p
    · subst hpp
      rw [AList.lookup_insert] at ho'
      cases ho'
      exact AList.lookup_insert _
    · rw [AList.lookup_insert_ne hpp] at ho'
      have he := h.entry p' o' ho'
      have hne : key o' ≠ key o := fun heq => hkey (heq ▸ mem_of_lookup he)
      rw [AList.lookup_insert_ne hne]
      exact he
  object := by
    intro k i hi
    by_cases hk : k = key o
    · subst hk
      rw [AList.lookup_insert] at hi
      cases hi
      exact ⟨p, o, AList.lookup_insert _, rfl, rfl⟩
    · rw [AList.lookup_insert_ne hk] at hi
      obtain ⟨p', o', ho', hkey', hi'⟩ := h.object k i hi
      have hne : p' ≠ p := by
        rintro rfl
        exact hp (mem_of_lookup ho')
      exact ⟨p', o', (AList.lookup_insert_ne hne).trans ho', hkey', hi'⟩

/-- An object may change, as long as its entry does not. -/
theorem update (h : Indexed key info objs idx) {p : P} {o o' : O} (ho : objs.lookup p = some o)
    (hkey : key o' = key o) (hinfo : info p o' = info p o) :
    Indexed key info (objs.insert p o') idx where
  entry := by
    intro q x hx
    by_cases hq : q = p
    · subst hq
      rw [AList.lookup_insert] at hx
      cases hx
      rw [hkey, hinfo]
      exact h.entry q o ho
    · rw [AList.lookup_insert_ne hq] at hx
      exact h.entry q x hx
  object := by
    intro k i hi
    obtain ⟨q, x, hx, hk, hi'⟩ := h.object k i hi
    by_cases hq : q = p
    · subst hq
      rw [ho] at hx
      cases hx
      exact ⟨q, o', AList.lookup_insert _, hkey.trans hk, hi'.trans hinfo.symm⟩
    · exact ⟨q, x, (AList.lookup_insert_ne hq).trans hx, hk, hi'⟩

theorem erase (h : Indexed key info objs idx)
    (hinfo : ∀ p o p' o', info p o = info p' o' → p = p') {p : P} {o : O}
    (ho : objs.lookup p = some o) : Indexed key info (objs.erase p) (idx.erase (key o)) where
  entry := by
    intro q x hx
    have hq : q ≠ p := by
      rintro rfl
      simp at hx
    rw [AList.lookup_erase_ne hq] at hx
    have hne : key x ≠ key o := fun heq => hq (h.eq_of_key hinfo hx ho heq)
    rw [AList.lookup_erase_ne hne]
    exact h.entry q x hx
  object := by
    intro k i hi
    have hk : k ≠ key o := by
      rintro rfl
      simp at hi
    rw [AList.lookup_erase_ne hk] at hi
    obtain ⟨q, x, hx, hkx, hi'⟩ := h.object k i hi
    have hq : q ≠ p := by
      rintro rfl
      rw [ho] at hx
      cases hx
      exact hk hkx.symm
    exact ⟨q, x, (AList.lookup_erase_ne hq).trans hx, hkx, hi'⟩

/-- Objects and entries are equally many. -/
theorem length_eq (h : Indexed key info objs idx)
    (hinfo : ∀ p o p' o', info p o = info p' o' → p = p') :
    objs.keys.length = idx.keys.length := by
  have hmem : ∀ x ∈ objs.entries, objs.lookup x.1 = some x.2 :=
    fun x hx => AList.mem_lookup_iff.mpr hx
  have hnodup : (objs.entries.map fun x => key x.2).Nodup := by
    refine List.Nodup.map_on ?_ objs.keys_nodup.of_map
    rintro ⟨p, o⟩ hx ⟨p', o'⟩ hx' hkey
    have ho : objs.lookup p = some o := hmem _ hx
    have ho' : objs.lookup p' = some o' := hmem _ hx'
    obtain rfl := h.eq_of_key hinfo ho ho' hkey
    rw [ho] at ho'
    rw [Option.some.inj ho']
  have hperm : (objs.entries.map fun x => key x.2).Perm idx.keys := by
    rw [List.perm_ext_iff_of_nodup hnodup idx.keys_nodup]
    intro k
    rw [List.mem_map, ← AList.mem_keys, ← AList.lookup_isSome]
    constructor
    · rintro ⟨⟨p, o⟩, hx, rfl⟩
      rw [h.entry p o (hmem _ hx)]
      rfl
    · intro hk
      obtain ⟨i, hi⟩ := Option.isSome_iff_exists.mp hk
      obtain ⟨p, o, ho, hkey, -⟩ := h.object k i hi
      exact ⟨⟨p, o⟩, AList.mem_lookup_iff.mp ho, hkey⟩
  have hlen := hperm.length_eq
  rw [List.length_map] at hlen
  rw [← hlen]
  exact List.length_map ..

end Indexed

end Lib
