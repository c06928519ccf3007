import ScadaSim.Traffic.KeptBlocks

/-!
# Values that are lost

The file that comes with the simulations spells two tags in another way than the parser,
which skips the lines that it does not know; a text that is no number is read as far as it
is one; of a tag that comes twice the last line counts; and a line that is too long ends
the loop. None of these is an error. `nothingLost_iff` says for which files, with the tags
of the shipped one, every complete block is in the list of profiles as it is written.
-/

namespace ScadaSim.Traffic

open Lib.Text Lib.Number

/-! ## Profiles that are accepted -/

/-- A profile has begun, and this has been asked for since. -/
def InWork (ds mid : List Demand) : Prop :=
  ∃ before, ds = before ++ .begin :: mid ∧ .begin ∉ mid ∧ .finish ∉ mid

/-- What the validation check accepts: at last the label is set to another than "unspec",
and the id to another than -1. -/
structure Acceptable (env : Platform) (mid : List Demand) : Prop where
  label : ∃ v ∈ lastSet .label mid, v ≠ "unspec".toList
  id : ∃ v ∈ lastSet .id mid, env.atoi v ≠ -1

/-- A line ends a profile that is in work and acceptable. -/
def Accepting (env : Platform) (ds : List Demand) : Prop :=
  ∃ before mid after, ds = before ++ .finish :: after ∧ InWork before mid ∧ Acceptable env mid

section Accepting

variable {env : Platform} {ds mid : List Demand} {d : Demand}

theorem inWork_concat_iff : InWork (ds ++ [d]) mid ↔
    d = .begin ∧ mid = [] ∨
      d ≠ .begin ∧ d ≠ .finish ∧ ∃ mid', mid = mid' ++ [d] ∧ InWork ds mid' := by
  constructor
  · rintro ⟨before, hds, hbegin, hfinish⟩
    induction mid using List.reverseRecOn with
    | nil =>
        obtain ⟨-, hlast⟩ := List.append_inj' hds rfl
        exact .inl ⟨(List.cons.inj hlast).1, rfl⟩
    | append_singleton mid' d' _ =>
        rw [← List.cons_append, ← List.append_assoc] at hds
        obtain ⟨hinit, hlast⟩ := List.append_inj' hds rfl
        obtain rfl : d = d' := (List.cons.inj hlast).1
        rw [List.mem_append, not_or, List.mem_singleton] at hbegin hfinish
        exact .inr ⟨Ne.symm hbegin.2, Ne.symm hfinish.2, mid', rfl, before, hinit, hbegin.1,
          hfinish.1⟩
  · rintro (⟨rfl, rfl⟩ | ⟨hb, hf, mid', rfl, before, rfl, hbegin, hfinish⟩)
    · exact ⟨ds, rfl, List.not_mem_nil, List.not_mem_nil⟩
    · refine ⟨before, by simp, ?_, ?_⟩
      · rw [List.mem_append, not_or, List.mem_singleton]
        exact ⟨hbegin, Ne.symm hb⟩
      · rw [List.mem_append, not_or, List.mem_singleton]
        exact ⟨hfinish, Ne.symm hf⟩

theorem accepting_concat_iff : Accepting env (ds ++ [d]) ↔
    Accepting env ds ∨ d = .finish ∧ ∃ mid, InWork ds mid ∧ Acceptable env mid := by
  constructor
  · rintro ⟨before, mid, after, hds, hwork, hacceptable⟩
    induction after using List.reverseRecOn with
    | nil =>
        obtain ⟨hinit, hlast⟩ := List.append_inj' hds rfl
        exact .inr ⟨(List.cons.inj hlast).1, mid, hinit ▸ hwork, hacceptable⟩
    | append_singleton after' d' _ =>
        rw [← List.cons_append, ← List.append_assoc] at hds
        obtain ⟨hinit, -⟩ := List.append_inj' hds rfl
        exact .inl ⟨before, mid, after', hinit, hwork, hacceptable⟩
  · rintro (⟨before, mid, after, rfl, hwork, hacceptable⟩ | ⟨rfl, mid, hwork, hacceptable⟩)
    · exact ⟨before, mid, after ++ [d], by simp, hwork, hacceptable⟩
    · exact ⟨ds, mid, [], rfl, hwork, hacceptable⟩

/-- The validation check looks at what has been set at last. -/
theorem acceptable_iff (hbegin : .begin ∉ mid) : Acceptable env mid ↔
    (mid.foldl (Demand.apply env) {}).label ≠ "unspec" ∧
      (mid.foldl (Demand.apply env) {}).profileID ≠ -1 := by
  have hlabel := Demand.foldl_get env .label hbegin {}
  have hid := Demand.foldl_get env .id hbegin {}
  constructor
  · rintro ⟨⟨l, hl, hne⟩, v, hv, hminus⟩
    rw [Option.mem_def.mp hl] at hlabel
    rw [Option.mem_def.mp hv] at hid
    have hlabel : (mid.foldl (Demand.apply env) {}).label = String.ofList l :=
      FieldValue.text.inj hlabel
    have hid : (mid.foldl (Demand.apply env) {}).profileID = env.atoi v := FieldValue.int.inj hid
    rw [hlabel, hid]
    refine ⟨fun heq => hne ?_, hminus⟩
    rw [← heq, String.toList_ofList]
  · rintro ⟨hne, hminus⟩
    constructor
    · cases hl : lastSet .label mid with
      | none =>
          rw [hl] at hlabel
          exact absurd (FieldValue.text.inj hlabel) hne
      | some l =>
          rw [hl] at hlabel
          have hlabel : (mid.foldl (Demand.apply env) {}).label = String.ofList l :=
            FieldValue.text.inj hlabel
          refine ⟨l, rfl, fun heq => hne ?_⟩
          rw [hlabel, heq]
          rfl
    · cases hv : lastSet .id mid with
      | none =>
          rw [hv] at hid
          exact absurd (FieldValue.int.inj hid) hminus
      | some v =>
          rw [hv] at hid
          have hid : (mid.foldl (Demand.apply env) {}).profileID = env.atoi v :=
            FieldValue.int.inj hid
          exact ⟨v, rfl, fun heq => hminus (hid.trans heq)⟩

/-- Where the reader is after some demands. -/
structure Reading (env : Platform) (ds : List Demand) (r : Reader) : Prop where
  status : r.status = 1 ↔ ∃ mid, InWork ds mid
  profile : ∀ mid, InWork ds mid → r.t = mid.foldl (Demand.apply env) {}
  profiles : r.profiles = [] ↔ ¬ Accepting env ds

theorem Reading.nil (env : Platform) : Reading env [] {} where
  status := iff_of_false (by decide) fun ⟨mid, before, h, _⟩ =>
    List.append_ne_nil_of_right_ne_nil before (List.cons_ne_nil .begin mid) h.symm
  profile mid := fun ⟨before, h, _⟩ =>
    absurd h.symm (List.append_ne_nil_of_right_ne_nil before (List.cons_ne_nil .begin mid))
  profiles := iff_of_true rfl fun ⟨before, _, after, h, _⟩ =>
    List.append_ne_nil_of_right_ne_nil before (List.cons_ne_nil .finish after) h.symm

/-- A line in a profile. -/
theorem Reading.apply {r r' : Reader} (h : Reading env ds r) (hbegin : d ≠ .begin)
    (hfinish : d ≠ .finish) (hstatus : r'.status = r.status)
    (hprofile : r.status = 1 → r'.t = d.apply env r.t) (hprofiles : r'.profiles = r.profiles) :
    Reading env (ds ++ [d]) r' := by
  have hwork (mid : List Demand) :
      InWork (ds ++ [d]) mid ↔ ∃ mid', mid = mid' ++ [d] ∧ InWork ds mid' := by
    rw [inWork_concat_iff]
    simp [hbegin, hfinish]
  constructor
  · rw [hstatus, h.status]
    constructor
    · exact fun ⟨mid, hmid⟩ => ⟨mid ++ [d], (hwork _).mpr ⟨mid, rfl, hmid⟩⟩
    · rintro ⟨mid, hmid⟩
      obtain ⟨mid', -, hmid'⟩ := (hwork mid).mp hmid
      exact ⟨mid', hmid'⟩
  · intro mid hmid
    obtain ⟨mid', rfl, hmid'⟩ := (hwork mid).mp hmid
    rw [hprofile (h.status.mpr ⟨mid', hmid'⟩), h.profile mid' hmid', List.foldl_append]
    rfl
  · rw [hprofiles, h.profiles, accepting_concat_iff]
    simp [hfinish]

/-- A line that closes the profile in work, or none. -/
theorem Reading.finish {r : Reader} (h : Reading env ds r) :
    Reading env (ds ++ [.finish]) (r.handle env .finish) := by
  have hnone (mid : List Demand) : ¬ InWork (ds ++ [.finish]) mid := by
    rw [inWork_concat_iff]
    simp
  have hhandle : r.handle env .finish = if r.status = 1 then r.finish env else r := rfl
  rw [hhandle]
  split
  · rename_i hopen
    obtain ⟨mid, hmid⟩ := h.status.mp hopen
    refine ⟨iff_of_false (r.finish_status env) fun ⟨mid, hmid⟩ => hnone mid hmid,
      fun mid hmid => absurd hmid (hnone mid), ?_⟩
    rw [r.finish_profiles_eq_nil_iff env, h.profiles, accepting_concat_iff, not_or]
    refine and_congr_right fun _ => not_congr ⟨fun haccepted => ?_, ?_⟩
    · rw [h.profile mid hmid] at haccepted
      exact ⟨rfl, mid, hmid, (acceptable_iff hmid.choose_spec.2.1).mpr haccepted⟩
    · rintro ⟨-, mid', hmid', hacceptable⟩
      rw [h.profile mid' hmid']
      exact (acceptable_iff hmid'.choose_spec.2.1).mp hacceptable
  · rename_i hclosed
    refine ⟨iff_of_false hclosed fun ⟨mid, hmid⟩ => hnone mid hmid,
      fun mid hmid => absurd hmid (hnone mid), ?_⟩
    rw [h.profiles, accepting_concat_iff, not_or]
    refine (and_iff_left ?_).symm
    rintro ⟨-, mid, hmid, -⟩
    exact hclosed (h.status.mpr ⟨mid, hmid⟩)

theorem reading_foldl (env : Platform) (ds : List Demand) :
    Reading env ds (ds.foldl (Reader.handle env) {}) := by
  induction ds using List.reverseRecOn with
  | nil => exact .nil env
  | append_singleton ds d ih =>
      rw [List.foldl_append, List.foldl_cons, List.foldl_nil]
      generalize ds.foldl (Reader.handle env) {} = r at ih
      cases d with
      | nothing => exact ih.apply nofun nofun rfl (fun _ => rfl) rfl
      | finish => exact ih.finish
      | begin =>
          have hwork (mid : List Demand) : InWork (ds ++ [.begin]) mid ↔ mid = [] := by
            rw [inWork_concat_iff]
            simp
          refine ⟨iff_of_true rfl ⟨[], (hwork []).mpr rfl⟩, fun mid hmid => ?_, ?_⟩
          · rw [(hwork mid).mp hmid]
            rfl
          · show r.profiles = [] ↔ _
            rw [ih.profiles, accepting_concat_iff]
            simp
      | set f v =>
          have hline : r.handle env (.set f v) =
              if r.status = 1 then { r with t := r.t.store env f v } else r := rfl
          rw [hline]
          split
          · exact ih.apply nofun nofun rfl (fun _ => rfl) rfl
          · rename_i hclosed
            exact ih.apply nofun nofun rfl (fun hopen => absurd hopen hclosed) rfl

end Accepting

/-! ## Blocks in the list -/

/-- The block without its last line. -/
def ProfileBlock.unclosed (b : ProfileBlock) : ProfileBlock := { b with close := none }

/-- The closing line of a block, behind some parts of the file, puts the profile into the
list. -/
structure PutBy (env : Platform) (w : Vocabulary) (profiles : List TrafficProfile)
    (before : List FileItem) (b : ProfileBlock) (t : TrafficProfile) : Prop where
  last : readProfiles env (fileText w true (before ++ [.block b])) =
    readProfiles env (fileText w true (before ++ [.block b.unclosed])) ++ [t]
  listed : readProfiles env (fileText w true (before ++ [.block b])) <+: profiles

/-- There is an error, or the closing line of each complete block puts a profile into the
list in which all entries of the block are as they are written. -/
def NothingLost (env : Platform) (w : Vocabulary) (items : List FileItem)
    (result : Except Failure (List TrafficProfile)) : Prop :=
  (∃ failure, result = .error failure) ∨
    ∃ profiles, result = .ok profiles ∧ ∀ before b after,
      items = before ++ .block b :: after → b.Complete →
        ∃ t, PutBy env w profiles before b t ∧ b.WrittenIn env t

/-- Each complete block ends in front of any line that is too long, and is kept. -/
def AllKept (env : Platform) (w : Vocabulary) (items : List FileItem) : Prop :=
  ∀ before b after, items = before ++ .block b :: after → b.Complete →
    (∀ i ∈ before ++ [.block b], i.Short w) ∧ b.Kept env w

/-- A file with the tags of the shipped one, which has none for the port. -/
structure ShippedFile where
  items : List FileItem
  noPort : ∀ b, .block b ∈ items → ∀ e ∈ b.entries, e.field ≠ .port

section PutBy

variable {env : Platform} {w : Vocabulary} {before : List FileItem} {b : ProfileBlock}

theorem readProfiles_prefix (env : Platform) (r : Reader) (ds : List Demand) :
    r.profiles <+: (ds.foldl (Reader.handle env) r).profiles := by
  induction ds generalizing r with
  | nil => exact List.prefix_refl _
  | cons d ds ih => exact (r.handle_prefix env d).trans (ih (r.handle env d))

theorem lines_close {indent : { l // Blank l }} (hclose : b.close = some indent) :
    (before ++ [FileItem.block b]).flatMap (FileItem.lines w) =
      (before ++ [FileItem.block b.unclosed]).flatMap (FileItem.lines w) ++
        [indent.val ++ tag "/Profile".toList] := by
  simp [FileItem.lines, ProfileBlock.lines, ProfileBlock.unclosed, hclose]

theorem short_iff (items : List FileItem) : (∀ i ∈ items, i.Short w) ↔
    ∀ l ∈ items.flatMap (FileItem.lines w), l.length < bufferSize := by
  constructor
  · intro h l hl
    obtain ⟨i, hi, hmem⟩ := List.mem_flatMap.mp hl
    exact h i hi l hmem
  · exact fun h i hi l hl => h l (List.mem_flatMap.mpr ⟨i, hi, hl⟩)

theorem short_close_iff {indent : { l // Blank l }} (hclose : b.close = some indent) :
    (∀ i ∈ before ++ [.block b], i.Short w) ↔
      (∀ i ∈ before ++ [.block b.unclosed], i.Short w) ∧
        (indent.val ++ tag "/Profile".toList).length < bufferSize := by
  rw [short_iff, short_iff, lines_close hclose, List.forall_mem_append, List.forall_mem_singleton]

/-- A closed block is read as the one that is not closed, and then its last line. -/
theorem heard_close {indent : { l // Blank l }} (hclose : b.close = some indent)
    (h : ∀ i ∈ before ++ [.block b.unclosed], i.Short w) :
    heard w (before ++ [.block b]) = heard w (before ++ [.block b.unclosed]) ++
      [demand (buffer bufferSize (indent.val ++ tag "/Profile".toList))] := by
  have hshort := (short_iff _).mp h
  unfold heard
  rw [lines_close hclose, untilLong_append hshort, untilLong_singleton,
    untilLong_of_short hshort, List.map_append, List.map_append, List.map_singleton,
    List.map_singleton]

/-- When a line is too long, the last line of the block closes nothing. -/
theorem readProfiles_close_of_long (hclose : b.close ≠ none)
    (h : ¬ ∀ i ∈ before ++ [.block b], i.Short w) :
    readProfiles env (fileText w true (before ++ [.block b])) =
      readProfiles env (fileText w true (before ++ [.block b.unclosed])) := by
  obtain ⟨indent, hindent⟩ := Option.ne_none_iff_exists'.mp hclose
  rw [readProfiles_fileText, readProfiles_fileText]
  by_cases hunclosed : ∀ i ∈ before ++ [.block b.unclosed], i.Short w
  · -- the last line is the one that is too long, and cut off
    have hcut : bufferSize ≤ (indent.val ++ tag "/Profile".toList).length := by
      by_contra hlt
      exact h ((short_close_iff hindent).mpr ⟨hunclosed, Nat.lt_of_not_le hlt⟩)
    have hless := buffer_length_lt hcut (by simp [tag])
    have hquiet := close_ne_finish indent.property
      ((cstr_isPrefix _).trans (buffer_isPrefix bufferSize (indent.val ++ tag "/Profile".toList)))
      (Nat.lt_of_le_of_lt (cstr_isPrefix _).length_le hless)
    rw [heard_close hindent hunclosed, List.foldl_append, List.foldl_cons, List.foldl_nil]
    exact Reader.handle_quiet env _ hquiet
  · -- a line before is too long
    rw [short_iff] at hunclosed
    have hlong : ∃ l ∈ (before ++ [FileItem.block b.unclosed]).flatMap (FileItem.lines w),
        bufferSize ≤ l.length := by
      simpa using hunclosed
    unfold heard
    rw [lines_close hindent, untilLong_append_of_long hlong]

/-- Before the last line of a block its profile is in work. -/
theorem foldl_unclosed (env : Platform)
    (hshort : ∀ i ∈ before ++ [.block b.unclosed], i.Short w) (hformed : b.Formed) :
    (heard w (before ++ [.block b.unclosed])).foldl (Reader.handle env) {} =
      { (before.flatMap (FileItem.demands w)).foldl (Reader.handle env) {} with
        status := 1, t := b.profile env w } := by
  rw [heard_of_short hshort, List.flatMap_append, List.foldl_append, List.flatMap_singleton,
    demands_block]
  generalize (before.flatMap (FileItem.demands w)).foldl (Reader.handle env) {} = r
  have hbody := Reader.foldl_body env (r := { r with t := {}, status := 1 }) rfl
    (hformed.finish_not_mem w)
  have hlast : (if b.unclosed.close = none then [] else [Demand.finish]) = [] := if_pos rfl
  rw [hlast, List.append_nil]
  exact hbody

/-- The closing line of a block that is read in time checks the profile of the block. -/
theorem readProfiles_close (env : Platform) (hclose : b.close ≠ none)
    (hshort : ∀ i ∈ before ++ [.block b], i.Short w) (hformed : b.Formed) :
    ∃ r : Reader, r.t = b.profile env w ∧
      readProfiles env (fileText w true (before ++ [.block b.unclosed])) = r.profiles ∧
      readProfiles env (fileText w true (before ++ [.block b])) = (r.finish env).profiles := by
  obtain ⟨indent, hindent⟩ := Option.ne_none_iff_exists'.mp hclose
  obtain ⟨hunclosed, hlast⟩ := (short_close_iff hindent).mp hshort
  have hwork := foldl_unclosed env hunclosed hformed
  refine ⟨{ (before.flatMap (FileItem.demands w)).foldl (Reader.handle env) {} with
    status := 1, t := b.profile env w }, rfl, ?_, ?_⟩
  · rw [readProfiles_fileText, hwork]
  · rw [readProfiles_fileText, heard_close hindent hunclosed, buffer_of_short hlast,
      demand_close indent.property, List.foldl_append, hwork]
    rfl

/-- The profile of a kept block is in the list when the block is read in time. -/
theorem putBy_of_kept (hshort : ∀ i ∈ before ++ [.block b], i.Short w) (hk : b.Kept env w)
    (hc : b.Complete) (hport : ∀ e ∈ b.entries, e.field ≠ .port) (final : Bool)
    (after : List FileItem) :
    ∃ t, PutBy env w (readProfiles env (fileText w final (before ++ .block b :: after)))
      before b t ∧ b.WrittenIn env t := by
  obtain ⟨r, hwork, hbefore, hlast⟩ := readProfiles_close env hc.closed hshort hk.formed
  obtain ⟨t, ht, hr⟩ := Reader.finish_of_accepted env hwork (hk.accepted hc)
  refine ⟨t, ⟨?_, ?_⟩, hk.written (fun e he hfield => absurd hfield (hport e he)) hr⟩
  · rw [hlast, hbefore, ht]
  · have hsplit : before ++ .block b :: after = (before ++ [.block b]) ++ after := by simp
    rw [readProfiles_fileText, readProfiles_fileText, hsplit, heard_append hshort,
      heard_of_short hshort, List.foldl_append]
    exact readProfiles_prefix env _ _

/-- A block whose closing line puts a profile into the list, with the entries as they are
written, is read in time and kept. -/
theorem kept_of_putBy (hc : b.Complete) (hport : ∀ e ∈ b.entries, e.field ≠ .port)
    {profiles : List TrafficProfile} {t : TrafficProfile} (hput : PutBy env w profiles before b t)
    (hwritten : b.WrittenIn env t) :
    (∀ i ∈ before ++ [.block b], i.Short w) ∧ b.Kept env w := by
  have hput := hput.last
  have hshort : ∀ i ∈ before ++ [.block b], i.Short w := by
    by_contra hlong
    rw [readProfiles_close_of_long hc.closed hlong] at hput
    exact List.cons_ne_nil t [] (List.self_eq_append_right.mp hput)
  have hformed : b.Formed := fun e he => TrafficProfile.formed_of_written (hwritten e he)
  obtain ⟨r, hwork, hbefore, hlast⟩ := readProfiles_close env hc.closed hshort hformed
  rw [hlast, hbefore] at hput
  have haccepted : b.Accepted env w := by
    by_contra hdropped
    rw [Reader.finish_of_not_accepted env hwork hdropped] at hput
    exact List.cons_ne_nil t [] (List.self_eq_append_right.mp hput)
  obtain ⟨t', ht', hr⟩ := Reader.finish_of_accepted env hwork haccepted
  have hsame : t' = t := (List.cons.inj (List.append_cancel_left (ht'.symm.trans hput))).1
  exact ⟨hshort, ProfileBlock.kept_of_written haccepted
    (fun e he hfield => absurd hfield (hport e he)) (hsame ▸ hr) hwritten⟩

end PutBy

/-- Without a profile that is accepted there is an error. -/
theorem readProfiles_eq_nil_iff (env : Platform) (w : Vocabulary) (final : Bool)
    (items : List FileItem) :
    (readProfiles env (fileText w final items)).length = 0 ↔ ¬ Accepting env (heard w items) := by
  rw [readProfiles_fileText, List.length_eq_zero_iff]
  exact (reading_foldl env (heard w items)).profiles

/-- Nothing is lost from a file with the shipped tags just when none of the lines that are
read ends a profile that is accepted, which is an error, or when all complete blocks are
kept. -/
theorem nothingLost_iff (env : Platform) (configFileName : String) (file : ShippedFile)
    (final : Bool) :
    NothingLost env shippedTags file.items
        (initializeProfiles env configFileName (some (fileText shippedTags final file.items))) ↔
      ¬ Accepting env (heard shippedTags file.items) ∨ AllKept env shippedTags file.items := by
  have hport (before : List FileItem) (b : ProfileBlock) (after : List FileItem)
      (hitems : file.items = before ++ .block b :: after) : ∀ e ∈ b.entries, e.field ≠ .port :=
    file.noPort b (hitems ▸ List.mem_append_right before List.mem_cons_self)
  rw [initializeProfiles_some, ← readProfiles_eq_nil_iff env shippedTags final file.items]
  by_cases hnone : (readProfiles env (fileText shippedTags final file.items)).length = 0
  · rw [if_pos hnone]
    exact iff_of_true (.inl ⟨_, rfl⟩) (.inl hnone)
  · rw [if_neg hnone]
    constructor
    · rintro (⟨failure, herror⟩ | ⟨profiles, -, hall⟩)
      · cases herror
      · refine .inr fun before b after hitems hc => ?_
        obtain ⟨t, hput, hwritten⟩ := hall before b after hitems hc
        exact kept_of_putBy hc (hport before b after hitems) hput hwritten
    · rintro (herror | hkept)
      · exact absurd herror hnone
      · refine .inr ⟨_, rfl, fun before b after hitems hc => ?_⟩
        obtain ⟨hshort, hk⟩ := hkept before b after hitems hc
        rw [hitems]
        exact putBy_of_kept hshort hk hc (hport before b after hitems) final after

/-! ### A number of requests that is not read -/

def two : Whole where
  digits := [2]
  digits_ne := nofun

def seventy : Whole where
  digits := [7, 0]
  digits_ne := nofun

/-- Three lines of the first block of the shipped file. -/
def interactiveBlock : ProfileBlock where
  indent := ⟨[], blank_nil⟩
  body :=
    [.entry ⟨['\t'], .id, two.text, by simp [Blank], by decide⟩,
      .entry ⟨['\t'], .label, "Interactive Traffic".toList, by simp [Blank], by decide⟩,
      .entry ⟨['\t'], .requestsPerSession, seventy.text, by simp [Blank], by decide⟩]
  close := some ⟨[], blank_nil⟩

def interactiveFile : ShippedFile where
  items := [.block interactiveBlock]
  noPort := by
    intro b hb e he
    cases List.mem_singleton.mp hb
    have hall : ∀ e ∈ interactiveBlock.entries, e.field ≠ .port := by decide
    exact hall e he

/-- The file is read without an error, and the profile has one request in a session. -/
theorem interactiveFile_loses :
    ¬ NothingLost plainPlatform shippedTags interactiveFile.items
      (initializeProfiles plainPlatform "traffic_profiles.parameters"
        (some (fileText shippedTags true interactiveFile.items))) := by
  have haccepting : Accepting plainPlatform (heard shippedTags interactiveFile.items) := by
    refine ⟨.begin :: interactiveBlock.demands shippedTags, interactiveBlock.demands shippedTags,
      [], ?_, ⟨[], rfl, by decide, by decide⟩, ⟨_, rfl, by decide⟩, _, rfl, by decide⟩
    rw [heard_of_short (by decide)]
    rfl
  have hread := (readProfiles_eq_nil_iff plainPlatform shippedTags true
    interactiveFile.items).not.mpr (not_not_intro haccepting)
  rw [initializeProfiles_some, if_neg hread]
  rintro (⟨failure, herror⟩ | ⟨profiles, -, hall⟩)
  · cases herror
  · have hc : interactiveBlock.Complete := ⟨by decide, by decide, by decide⟩
    obtain ⟨t, hput, hwritten⟩ := hall [] interactiveBlock [] rfl hc
    obtain ⟨-, hk⟩ := kept_of_putBy hc (interactiveFile.noPort _ List.mem_cons_self) hput hwritten
    -- 70 is written in the file; the tag is not the parser's, so the default 1 stays
    have hone := hk.unknown _ (List.mem_cons_of_mem _
      (List.mem_cons_of_mem _ List.mem_cons_self)) (by decide)
    have heq : (1 : Int) = 70 :=
      ReadAs.unique hone (FieldValue.written_whole plainPlatform seventy)
    cases heq

end ScadaSim.Traffic
