import ScadaSim.Traffic.ProfileBlocks

/-!
# What becomes of a block's entries

The profile of a block has in each field what the last line for it has set, or the
default (`Demand.foldl_get`). `Kept.written` with `kept_of_written` says when each entry is
in the profile as it is written: labels must be readable, texts must be values, those of
one tag the same, and the tags must be the parser's, or the values the defaults.
-/

namespace ScadaSim.Traffic

open Lib.Text Lib.Number

/-- The value that a demand sets a field to. -/
def Demand.value? (f : ProfileField) : Demand → Option (List Char)
  | .set g v => if g = f then some v else none
  | .nothing | .begin | .finish => none

theorem Demand.value?_eq_some_iff {f : ProfileField} {d : Demand} {v : List Char} :
    d.value? f = some v ↔ d = .set f v := by
  cases d with
  | set g u =>
      unfold value?
      rw [Demand.set.injEq, Option.ite_none_right_eq_some, Option.some.injEq]
  | nothing | begin | finish => simp [value?]

/-- The value that a field is set to at last. -/
def lastSet (f : ProfileField) (ds : List Demand) : Option (List Char) :=
  (ds.filterMap (Demand.value? f)).getLast?

theorem lastSet_concat (f : ProfileField) (ds : List Demand) (d : Demand) :
    lastSet f (ds ++ [d]) = (d.value? f).or (lastSet f ds) := by
  unfold lastSet
  cases h : d.value? f with
  | none => simp [h]
  | some v => simp [h]

theorem mem_of_lastSet {f : ProfileField} {ds : List Demand} {v : List Char}
    (h : lastSet f ds = some v) : .set f v ∈ ds := by
  obtain ⟨d, hd, hv⟩ := List.mem_filterMap.mp (List.mem_of_getLast? h)
  exact Demand.value?_eq_some_iff.mp hv ▸ hd

theorem not_mem_of_lastSet {f : ProfileField} {ds : List Demand} (h : lastSet f ds = none)
    (v : List Char) : .set f v ∉ ds := by
  intro hmem
  have hnil := List.getLast?_eq_none_iff.mp h
  exact List.ne_nil_of_mem
    (List.mem_filterMap.mpr ⟨_, hmem, Demand.value?_eq_some_iff.mpr rfl⟩) hnil

namespace Demand

variable (env : Platform) (f : ProfileField)

/-- A field has its old value, its default, or what a demand sets. -/
theorem foldl_get_cases (ds : List Demand) (t : TrafficProfile) :
    (ds.foldl (Demand.apply env) t).get f = t.get f ∨
      (ds.foldl (Demand.apply env) t).get f = ({} : TrafficProfile).get f ∨
      ∃ v, .set f v ∈ ds ∧ (ds.foldl (Demand.apply env) t).get f = f.read env v := by
  induction ds generalizing t with
  | nil => exact .inl rfl
  | cons d ds ih =>
      rw [List.foldl_cons]
      rcases ih (d.apply env t) with hold | hdefault | ⟨v, hmem, hv⟩
      · rw [hold]
        cases d with
        | begin => exact .inr (.inl rfl)
        | nothing => exact .inl rfl
        | finish => exact .inl rfl
        | set g v =>
            unfold apply
            rw [TrafficProfile.store_get]
            split
            · rename_i heq
              exact .inr (.inr ⟨v, by rw [heq]; exact List.mem_cons_self, by rw [heq]⟩)
            · exact .inl rfl
      · exact .inr (.inl hdefault)
      · exact .inr (.inr ⟨v, List.mem_cons_of_mem d hmem, hv⟩)

/-- Where no profile begins, a field has the value that it is set to at last, or the one
from before. -/
theorem foldl_get {ds : List Demand} (hbegin : .begin ∉ ds) (t : TrafficProfile) :
    (ds.foldl (Demand.apply env) t).get f =
      (lastSet f ds).elim (t.get f) fun v => f.read env v := by
  induction ds using List.reverseRecOn with
  | nil => rfl
  | append_singleton ds d ih =>
      have hrest := ih fun hmem => hbegin (List.mem_append_left _ hmem)
      rw [List.foldl_append, List.foldl_cons, List.foldl_nil, lastSet_concat]
      cases d with
      | begin => exact absurd (List.mem_append_right ds List.mem_cons_self) hbegin
      | nothing => exact hrest
      | finish => exact hrest
      | set g v =>
          show ((ds.foldl (Demand.apply env) t).store env g v).get f =
            ((if g = f then some v else none).or (lastSet f ds)).elim (t.get f)
              fun v => f.read env v
          rw [TrafficProfile.store_get]
          by_cases hg : g = f
          · rw [if_pos hg.symm, if_pos hg, hg]
            rfl
          · rw [if_neg (Ne.symm hg), if_neg hg]
            exact hrest

end Demand

namespace ProfileBlock

variable {env : Platform} {w : Vocabulary} {b : ProfileBlock} {e : ProfileEntry}

/-- Whole numbers are read as an `int`, and so are the defaults. -/
theorem isInt_profile {f : ProfileField} {n : Int} (h : (b.profile env w).get f = .int n) :
    IsInt n := by
  have hdefault : ({} : TrafficProfile).get f = .int n → IsInt n := by
    intro hget
    cases f <;> cases hget <;> decide
  rcases Demand.foldl_get_cases env f (b.demands w) {} with hold | hold | ⟨v, -, hv⟩
  · exact hdefault (hold.symm.trans h)
  · exact hdefault (hold.symm.trans h)
  · have hread : f.read env v = .int n := hv.symm.trans h
    unfold ProfileField.read at hread
    split at hread
    · cases hread
      exact env.isInt_atoi v
    · cases hread
    · cases hread

/-! ## Blocks that can be read -/

/-- The labels are readable, and the other texts are values. -/
structure Legible (b : ProfileBlock) : Prop where
  label : ∀ e ∈ b.entries, e.field = .label → Vocabulary.Readable e.value
  formed : b.Formed

namespace Legible

variable (h : b.Legible)

include h

theorem demand (he : e ∈ b.entries) (w : Vocabulary) : demand (e.line w) =
    if w.spell e.field = e.field.name then .set e.field e.value else .nothing := by
  by_cases hlabel : e.field = .label
  · have hknown : w.spell ProfileField.label = ProfileField.label.name := w.label
    rw [(e.demand_label w hlabel).mpr (h.label e he hlabel), hlabel, if_pos hknown]
  · exact e.demand_number w hlabel (h.formed e he)

theorem begin_not_mem : .begin ∉ b.demands w := by
  intro hmem
  obtain ⟨e, he, hbegin⟩ := mem_demands hmem nofun
  rw [h.demand he] at hbegin
  split at hbegin
  · cases hbegin
  · cases hbegin

/-- Only an entry of its own sets a field. -/
theorem entry_of_set {f : ProfileField} {v : List Char} (hmem : .set f v ∈ b.demands w) :
    ∃ e ∈ b.entries, e.field = f ∧ w.spell e.field = e.field.name ∧ e.value = v := by
  obtain ⟨e, he, hset⟩ := mem_demands hmem nofun
  rw [h.demand he] at hset
  split at hset
  · rename_i hknown
    cases hset
    exact ⟨e, he, rfl, hknown, rfl⟩
  · cases hset

/-- A field has its default when no entry for it has a tag of the parser. -/
theorem get_default {f : ProfileField}
    (hnone : ∀ e ∈ b.entries, e.field = f → w.spell e.field ≠ e.field.name) :
    (b.profile env w).get f = ({} : TrafficProfile).get f := by
  unfold profile
  rw [Demand.foldl_get env f h.begin_not_mem]
  cases hlast : lastSet f (b.demands w) with
  | none => rfl
  | some v =>
      obtain ⟨e, he, hfield, hknown, -⟩ := h.entry_of_set (mem_of_lastSet hlast)
      exact absurd hknown (hnone e he hfield)

/-- A text whose tag is the parser's own is read into its field, if those of the same tag
give no other value. -/
theorem get_known (he : e ∈ b.entries) (hknown : w.spell e.field = e.field.name)
    (hagree : ∀ e' ∈ b.entries, e.field = e'.field →
      e.field.read env e.value = e'.field.read env e'.value) :
    (b.profile env w).get e.field = e.field.read env e.value := by
  unfold profile
  rw [Demand.foldl_get env e.field h.begin_not_mem]
  cases hlast : lastSet e.field (b.demands w) with
  | some v =>
      obtain ⟨e', he', hfield, -, rfl⟩ := h.entry_of_set (mem_of_lastSet hlast)
      rw [hagree e' he' hfield.symm, hfield]
      rfl
  | none =>
      have hset := h.demand he w
      rw [if_pos hknown] at hset
      exact absurd (hset ▸ demand_mem he) (not_mem_of_lastSet hlast e.value)

end Legible

/-! ## Blocks that are kept -/

/-- The block can be read, no label is "unspec" and no id -1, the whole numbers fit, the
values of one tag are the same, and that of a tag that is not the parser's is the
default. -/
structure Kept (env : Platform) (w : Vocabulary) (b : ProfileBlock) : Prop extends
    b.Legible where
  unspec : ∀ e ∈ b.entries, e.field = .label → e.value ≠ "unspec".toList
  id : ∀ e ∈ b.entries, e.field = .id → atoi e.value ≠ -1
  fits : ∀ e ∈ b.entries, e.field.Fits e.value
  agree : ∀ e ∈ b.entries, ∀ e' ∈ b.entries, e.field = e'.field →
    e.field.read env e.value = e'.field.read env e'.value
  unknown : ∀ e ∈ b.entries, w.spell e.field ≠ e.field.name →
    (({} : TrafficProfile).get e.field).Written env e.value

/-- Each entry of the block is in the profile as it is written. -/
def WrittenIn (env : Platform) (b : ProfileBlock) (t : TrafficProfile) : Prop :=
  ∀ e ∈ b.entries, (t.get e.field).Written env e.value

/-- The profile that a block becomes differs from the one in work in a port that was
drawn. -/
theorem Reads.get {t : TrafficProfile} (h : b.Reads env w t) {f : ProfileField}
    (hf : f = .port → (b.profile env w).ownPort ≠ 0) : t.get f = (b.profile env w).get f := by
  by_cases hport : f = .port
  · rw [h.2 (hf hport)]
  · rw [← h.1]
    cases f <;> first | rfl | exact absurd rfl hport

theorem Kept.get (hk : b.Kept env w) (he : e ∈ b.entries)
    (hknown : w.spell e.field = e.field.name) :
    (b.profile env w).get e.field = e.field.read env e.value :=
  hk.toLegible.get_known he hknown (hk.agree e he)

theorem Kept.accepted (hk : b.Kept env w) (hc : b.Complete) : b.Accepted env w := by
  obtain ⟨l, hl, hlabel⟩ := hc.label
  obtain ⟨e, he, hid⟩ := hc.id
  constructor
  · intro hunspec
    have hget := hk.get hl (by rw [hlabel]; exact w.label)
    rw [hlabel] at hget
    have hvalue : (b.profile env w).label = String.ofList l.value := FieldValue.text.inj hget
    refine hk.unspec l hl hlabel ?_
    rw [← hunspec, hvalue, String.toList_ofList]
  · intro hminus
    have hget := hk.get he (by rw [hid]; exact w.id)
    have hfits := hk.fits e he
    rw [hid] at hget hfits
    have hvalue : (b.profile env w).profileID = env.atoi e.value := FieldValue.int.inj hget
    refine hk.id e he hid ?_
    rw [← hminus, hvalue, env.atoi_of_isInt (hfits rfl)]

/-- A kept block's entries are all in the profile; a port must not be the one that stands
for none. -/
theorem Kept.written (hk : b.Kept env w)
    (hport : ∀ e ∈ b.entries, e.field = .port → ¬ (FieldValue.int 0).Written env e.value)
    {t : TrafficProfile} (hr : b.Reads env w t) : b.WrittenIn env t := by
  have hwritten (e : ProfileEntry) (he : e ∈ b.entries) :
      ((b.profile env w).get e.field).Written env e.value := by
    by_cases htag : w.spell e.field = e.field.name
    · rw [hk.get he htag]
      exact ProfileField.read_written (hk.formed e he) (hk.fits e he)
    · have hdefault : (b.profile env w).get e.field = ({} : TrafficProfile).get e.field :=
        hk.toLegible.get_default fun e' _ hfield => hfield ▸ htag
      rw [hdefault]
      exact hk.unknown e he htag
  intro e he
  rw [hr.get]
  · exact hwritten e he
  · -- only a port of 0 is drawn anew
    intro hfield hzero
    have hget := hwritten e he
    rw [hfield] at hget
    exact hport e he hfield (hzero ▸ hget)

/-- A block that is accepted and whose entries are all in the profile is kept. -/
theorem kept_of_written (ha : b.Accepted env w)
    (hport : ∀ e ∈ b.entries, e.field = .port → e.field.Fits e.value) {t : TrafficProfile}
    (hr : b.Reads env w t) (hwritten : b.WrittenIn env t) : b.Kept env w := by
  have hformed : b.Formed := fun e he => TrafficProfile.formed_of_written (hwritten e he)
  have hlabel : t.label = (b.profile env w).label :=
    FieldValue.text.inj (hr.get (f := .label) nofun)
  have hid : t.profileID = (b.profile env w).profileID :=
    FieldValue.int.inj (hr.get (f := .id) nofun)
  have hread (e : ProfileEntry) (he : e ∈ b.entries) :
      e.field.Fits e.value ∧ e.field.read env e.value = t.get e.field := by
    refine TrafficProfile.read_of_written (hwritten e he) fun n hn => ?_
    by_cases hfield : e.field = .port
    · have hin := hwritten e he
      rw [hn] at hin
      exact atoi_of_readAs hin ▸ hport e he hfield (by rw [hfield]; rfl)
    · rw [hr.get fun heq => absurd heq hfield] at hn
      exact isInt_profile hn
  have htext (e : ProfileEntry) (he : e ∈ b.entries) (hfield : e.field = .label) :
      t.label.toList = e.value := by
    have hin := hwritten e he
    rw [hfield] at hin
    exact hin
  -- the line that has set the label is read as it is written
  obtain ⟨l, hl, hset⟩ : ∃ l ∈ b.entries, demand (l.line w) = .set .label t.label.toList := by
    rcases Demand.foldl_get_cases env .label (b.demands w) {} with hdefault | hdefault | ⟨v, hv⟩
    · exact absurd (FieldValue.text.inj hdefault) ha.1
    · exact absurd (FieldValue.text.inj hdefault) ha.1
    · obtain ⟨l, hl, hset⟩ := mem_demands hv.1 nofun
      have hvalue : (b.profile env w).label = String.ofList v := FieldValue.text.inj hv.2
      refine ⟨l, hl, ?_⟩
      rw [hset, hlabel, hvalue, String.toList_ofList]
  have hlegible : b.Legible := by
    refine ⟨fun e he hfield => ?_, hformed⟩
    have hown : l.field = .label := by
      rcases l.field_of_demand w (hformed l hl) hset with ⟨hown, -⟩ | ⟨hne, -, heq, -⟩
      · exact hown
      · exact absurd heq.symm hne
    rw [htext l hl hown] at hset
    rw [← htext e he hfield, htext l hl hown]
    exact (l.demand_label w hown).mp hset
  exact
    { toLegible := hlegible
      unspec := by
        intro e he hfield hunspec
        rw [← htext e he hfield, hlabel] at hunspec
        exact ha.1 (String.toList_inj.mp hunspec)
      id := by
        intro e he hfield hminus
        obtain ⟨hfits, hvalue⟩ := hread e he
        rw [hfield] at hfits hvalue
        have hatoi : env.atoi e.value = t.profileID := FieldValue.int.inj hvalue
        rw [env.atoi_of_isInt (hfits rfl), hminus, hid] at hatoi
        exact ha.2 hatoi.symm
      fits := fun e he => (hread e he).1
      agree := by
        intro e he e' he' hfield
        rw [(hread e he).2, (hread e' he').2, hfield]
      unknown := by
        intro e he hunknown
        have hfield : e.field ≠ .port := by
          intro heq
          rw [heq] at hunknown
          exact hunknown w.port
        have hin := hwritten e he
        have hdefault : (b.profile env w).get e.field = ({} : TrafficProfile).get e.field :=
          hlegible.get_default fun e' _ heq => heq ▸ hunknown
        rwa [hr.get fun heq => absurd heq hfield, hdefault] at hin }

end ProfileBlock

end ScadaSim.Traffic
