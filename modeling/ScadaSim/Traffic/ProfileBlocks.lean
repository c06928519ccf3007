import Mathlib.Data.List.Forall2
import ScadaSim.Traffic.ProfileLines

/-!
# Files of profile blocks

A file is made of blocks and remarks. A block opens with `<Profile>`, has its entries in
any order, with any texts for values and tags as often as it likes, with remarks between
them, and may lack its end. Lines can be of any length.

`heard` is what the lines ask for that are read. `readProfiles_file` says what is read when
all lines fit and all texts are values: the blocks that are closed, so far as the
validation check accepts them.
-/

namespace ScadaSim.Traffic

open Lib.Text Lib.Number

/-! ## Values -/

inductive Kind
  | int
  | real
  | text
  deriving DecidableEq

def ProfileField.kind : ProfileField → Kind
  | .label => .text
  | .timeBetweenRequests | .timeToRespond | .timeBetweenSessions | .ratio | .wanRatio => .real
  | .id | .requestLength | .requestsPerSession | .replyLength | .replyPerRequest | .port
  | .hopLimit => .int

theorem ProfileField.eq_label_of_kind {f : ProfileField} (h : f.kind = .text) : f = .label := by
  cases f <;> first | rfl | cases h

/-- The texts that are values of a field. -/
def ProfileField.Formed (f : ProfileField) (v : List Char) : Prop :=
  match f.kind with
  | .int => ∃ n, ReadAs strtol v n
  | .real => ∃ x, ReadAs strtod v x
  | .text => True

/-- The value that is read for a field. -/
def ProfileField.read (env : Platform) (f : ProfileField) (v : List Char) : FieldValue :=
  match f.kind with
  | .int => .int (env.atoi v)
  | .real => .real (env.atof v)
  | .text => .text (String.ofList v)

/-- A number for an `int` is one. -/
def ProfileField.Fits (f : ProfileField) (v : List Char) : Prop := f.kind = .int → IsInt (atoi v)

theorem TrafficProfile.store_get (env : Platform) (t : TrafficProfile) (f : ProfileField)
    (v : List Char) (g : ProfileField) :
    (t.store env f v).get g = if g = f then f.read env v else t.get g := by
  cases f <;> cases g <;> rfl

section Written

variable {env : Platform} {f : ProfileField} {v : List Char}

theorem ProfileField.get_int {t : TrafficProfile} (h : f.kind = .int) :
    ∃ n, t.get f = .int n := by
  cases f <;> first | exact ⟨_, rfl⟩ | cases h

theorem ProfileField.get_real {t : TrafficProfile} (h : f.kind = .real) :
    ∃ x, t.get f = .real x := by
  cases f <;> first | exact ⟨_, rfl⟩ | cases h

theorem ProfileField.read_int (h : f.kind = .int) : f.read env v = .int (env.atoi v) := by
  unfold read
  rw [h]

theorem ProfileField.read_real (h : f.kind = .real) : f.read env v = .real (env.atof v) := by
  unfold read
  rw [h]

/-- Whatever the text of a value is, it is one. -/
theorem TrafficProfile.formed_of_written {t : TrafficProfile} (h : (t.get f).Written env v) :
    f.Formed v := by
  unfold ProfileField.Formed
  cases hkind : f.kind with
  | int =>
      obtain ⟨n, hn⟩ := ProfileField.get_int (t := t) hkind
      rw [hn] at h
      exact ⟨n, h⟩
  | real =>
      obtain ⟨x, hx⟩ := ProfileField.get_real (t := t) hkind
      rw [hx] at h
      obtain ⟨y, hy, -⟩ := h
      exact ⟨y, hy⟩
  | text => trivial

/-- A text that is a value is the one that is read for it, if it fits. -/
theorem ProfileField.read_written (h : f.Formed v) (hfits : f.Fits v) :
    (f.read env v).Written env v := by
  unfold Formed at h
  cases hkind : f.kind with
  | int =>
      rw [hkind] at h
      obtain ⟨n, hn⟩ := h
      rw [read_int hkind, env.atoi_of_isInt (hfits hkind), atoi_of_readAs hn]
      exact hn
  | real =>
      rw [hkind] at h
      obtain ⟨y, hy⟩ := h
      rw [read_real hkind]
      exact ⟨y, hy, congrArg env.nearest (atof_of_readAs hy).symm⟩
  | text =>
      unfold read
      rw [hkind]
      exact String.toList_ofList

/-- A value that is written, and that is an `int` if it is a whole number, is read from its
text. -/
theorem TrafficProfile.read_of_written {t : TrafficProfile} (h : (t.get f).Written env v)
    (hint : ∀ n, t.get f = .int n → IsInt n) : f.Fits v ∧ f.read env v = t.get f := by
  cases hkind : f.kind with
  | int =>
      obtain ⟨n, hn⟩ := ProfileField.get_int (t := t) hkind
      rw [hn] at h ⊢
      have hatoi : Lib.Number.atoi v = n := atoi_of_readAs h
      have hfits : IsInt (Lib.Number.atoi v) := hatoi ▸ hint n hn
      refine ⟨fun _ => hfits, ?_⟩
      rw [ProfileField.read_int hkind, env.atoi_of_isInt hfits, hatoi]
  | real =>
      obtain ⟨x, hx⟩ := ProfileField.get_real (t := t) hkind
      rw [hx] at h ⊢
      obtain ⟨y, hy, rfl⟩ := h
      have hfits : f.Fits v := fun hint => absurd (hkind.symm.trans hint) (by decide)
      refine ⟨hfits, ?_⟩
      rw [ProfileField.read_real hkind, Platform.atof, atof_of_readAs hy]
  | text =>
      obtain rfl := ProfileField.eq_label_of_kind hkind
      have hlabel : t.label.toList = v := h
      have hfits : ProfileField.label.Fits v := fun hint => absurd hint (by decide)
      refine ⟨hfits, ?_⟩
      rw [← hlabel]
      exact congrArg FieldValue.text String.ofList_toList

/-- A text is the value of a field in one way only. -/
theorem TrafficProfile.get_of_written {t t' : TrafficProfile} (h : (t.get f).Written env v)
    (h' : (t'.get f).Written env v) : t.get f = t'.get f := by
  cases hkind : f.kind with
  | int =>
      obtain ⟨n, hn⟩ := ProfileField.get_int (t := t) hkind
      obtain ⟨n', hn'⟩ := ProfileField.get_int (t := t') hkind
      rw [hn] at h ⊢
      rw [hn'] at h' ⊢
      exact congrArg FieldValue.int (ReadAs.unique h h')
  | real =>
      obtain ⟨x, hx⟩ := ProfileField.get_real (t := t) hkind
      obtain ⟨x', hx'⟩ := ProfileField.get_real (t := t') hkind
      rw [hx] at h ⊢
      rw [hx'] at h' ⊢
      obtain ⟨y, hy, rfl⟩ := h
      obtain ⟨y', hy', rfl⟩ := h'
      rw [hy.unique hy']
  | text =>
      obtain rfl := ProfileField.eq_label_of_kind hkind
      have hlabel : t.label.toList = t'.label.toList := Eq.trans h (Eq.symm h')
      exact congrArg FieldValue.text (String.toList_inj.mp hlabel)

/-- The text of a number is taken for no tag. -/
theorem ProfileField.Formed.numeral (h : f.Formed v) (hlabel : f ≠ .label) :
    Vocabulary.Numeral v := by
  unfold Formed at h
  cases hkind : f.kind with
  | int =>
      rw [hkind] at h
      obtain ⟨n, hn⟩ := h
      exact Vocabulary.numeral_of_strtol hn
  | real =>
      rw [hkind] at h
      obtain ⟨x, hx⟩ := h
      exact Vocabulary.numeral_of_strtod hx
  | text => exact absurd (ProfileField.eq_label_of_kind hkind) hlabel

end Written

/-! ## Blocks -/

/-- A line `<Tag><value>`; the value may be any text. -/
structure ProfileEntry where
  indent : List Char
  field : ProfileField
  value : List Char
  blank : Blank indent
  newline : '\n' ∉ value

def ProfileEntry.line (w : Vocabulary) (e : ProfileEntry) : List Char :=
  w.entry e.indent e.field e.value

inductive BodyLine
  | remark (l : { l // Remark l })
  | entry (e : ProfileEntry)

def BodyLine.line (w : Vocabulary) : BodyLine → List Char
  | .remark l => l.val
  | .entry e => e.line w

def BodyLine.entry? : BodyLine → Option ProfileEntry
  | .remark _ => none
  | .entry e => some e

/-- A profile block; `close` is the indentation of its last line, if it has that line. -/
structure ProfileBlock where
  indent : { l // Blank l }
  body : List BodyLine
  close : Option { l // Blank l }

namespace ProfileBlock

def entries (b : ProfileBlock) : List ProfileEntry := b.body.filterMap BodyLine.entry?

def lines (w : Vocabulary) (b : ProfileBlock) : List (List Char) :=
  (b.indent.val ++ tag "Profile".toList) ::
    (b.body.map (BodyLine.line w) ++
      match b.close with
      | some indent => [indent.val ++ tag "/Profile".toList]
      | none => [])

/-- The block is closed, and has a label and an id. -/
structure Complete (b : ProfileBlock) : Prop where
  closed : b.close ≠ none
  label : ∃ e ∈ b.entries, e.field = .label
  id : ∃ e ∈ b.entries, e.field = .id

end ProfileBlock

/-- A part of a file. -/
inductive FileItem
  | remark (l : { l // Remark l })
  | block (b : ProfileBlock)

namespace FileItem

def lines (w : Vocabulary) : FileItem → List (List Char)
  | .remark l => [l.val]
  | .block b => b.lines w

/-- The closed block that the part is, if it is one. -/
def closed : FileItem → List ProfileBlock
  | .remark _ => []
  | .block b => if b.close = none then [] else [b]

/-- All lines fit into the buffer. -/
def Short (w : Vocabulary) (i : FileItem) : Prop := ∀ l ∈ i.lines w, l.length < bufferSize

instance (w : Vocabulary) (i : FileItem) : Decidable (i.Short w) :=
  inferInstanceAs (Decidable (∀ l ∈ i.lines w, l.length < bufferSize))

end FileItem

/-- The text of a file; its last line may do without a newline. -/
def fileText (w : Vocabulary) (final : Bool) (items : List FileItem) : List Char :=
  unlines final (items.flatMap (FileItem.lines w))

/-! ## The lines of a block -/

section Lines

variable (w : Vocabulary)

theorem ProfileEntry.demand_number {e : ProfileEntry} (h : e.field ≠ .label)
    (hformed : e.field.Formed e.value) :
    demand (e.line w) =
      if w.spell e.field = e.field.name then .set e.field e.value else .nothing :=
  w.demand_number e.blank (hformed.numeral h)

theorem ProfileEntry.demand_label {e : ProfileEntry} (h : e.field = .label) :
    demand (e.line w) = .set .label e.value ↔ Vocabulary.Readable e.value := by
  unfold line
  rw [h]
  exact w.demand_label_iff e.blank

/-- Whatever a line with a value sets is its own field, or the id in a label's line. -/
theorem ProfileEntry.field_of_demand {e : ProfileEntry} (hformed : e.field.Formed e.value)
    {f : ProfileField} {v : List Char} (h : demand (e.line w) = .set f v) :
    e.field = .label ∧ (f = .id ∨ f = .label) ∨
      e.field ≠ .label ∧ w.spell e.field = e.field.name ∧ f = e.field ∧ v = e.value := by
  by_cases hlabel : e.field = .label
  · left
    unfold line at h
    rw [hlabel] at h
    exact ⟨hlabel, w.label_of_demand e.blank h⟩
  · right
    rw [e.demand_number w hlabel hformed] at h
    split at h
    · rename_i hknown
      cases h
      exact ⟨hlabel, hknown, rfl, rfl⟩
    · cases h

/-- A line with a value does not close a profile. -/
theorem ProfileEntry.ne_finish {e : ProfileEntry} (hformed : e.field.Formed e.value) :
    demand (e.line w) ≠ .finish := by
  by_cases hlabel : e.field = .label
  · unfold line
    rw [hlabel]
    exact w.label_ne_finish e.blank e.value
  · rw [e.demand_number w hlabel hformed]
    split
    · nofun
    · nofun

theorem newline_not_mem_delimiter (indent : { l // Blank l }) {n : List Char}
    (hn : '\n' ∉ tag n) : '\n' ∉ indent.val ++ tag n := by
  rw [List.mem_append, not_or]
  exact ⟨indent.property.not_mem (by decide), hn⟩

theorem BodyLine.newline_not_mem (l : BodyLine) : '\n' ∉ l.line w := by
  cases l with
  | remark l => exact l.property.1
  | entry e => exact fun hmem => e.newline (w.mem_value e.blank (by decide) hmem)

theorem FileItem.newline_not_mem (i : FileItem) : ∀ l ∈ i.lines w, '\n' ∉ l := by
  intro l hl
  cases i with
  | remark r =>
      rw [List.mem_singleton.mp hl]
      exact r.property.1
  | block b =>
      rcases List.mem_cons.mp hl with rfl | hl
      · exact newline_not_mem_delimiter b.indent (by decide)
      · rcases List.mem_append.mp hl with hbody | hclose
        · obtain ⟨m, -, rfl⟩ := List.mem_map.mp hbody
          exact m.newline_not_mem w
        · split at hclose
          · rw [List.mem_singleton.mp hclose]
            exact newline_not_mem_delimiter _ (by decide)
          · cases hclose

end Lines

/-! ## Reading a block -/

/-- What a demand does to the profile in work. -/
def Demand.apply (env : Platform) (t : TrafficProfile) : Demand → TrafficProfile
  | .begin => {}
  | .set f v => t.store env f v
  | .nothing | .finish => t

namespace ProfileBlock

def demands (w : Vocabulary) (b : ProfileBlock) : List Demand :=
  b.body.map fun l => demand (l.line w)

/-- The profile in work at the end of the block, if no line before closes it. -/
def profile (env : Platform) (w : Vocabulary) (b : ProfileBlock) : TrafficProfile :=
  (b.demands w).foldl (Demand.apply env) {}

/-- The validation check accepts the profile. -/
def Accepted (env : Platform) (w : Vocabulary) (b : ProfileBlock) : Prop :=
  (b.profile env w).label ≠ "unspec" ∧ (b.profile env w).profileID ≠ -1

instance (env : Platform) (w : Vocabulary) (b : ProfileBlock) : Decidable (b.Accepted env w) :=
  inferInstanceAs (Decidable (_ ∧ _))

/-- The profile that the block becomes: one without a port has got any. -/
def Reads (env : Platform) (w : Vocabulary) (b : ProfileBlock) (t : TrafficProfile) : Prop :=
  { t with ownPort := (b.profile env w).ownPort } = b.profile env w ∧
    ((b.profile env w).ownPort ≠ 0 → t = b.profile env w)

/-- All values in the block are some of their fields. -/
def Formed (b : ProfileBlock) : Prop := ∀ e ∈ b.entries, e.field.Formed e.value

variable {w : Vocabulary} {b : ProfileBlock}

/-- Each demand of a block is that of an entry. -/
theorem mem_demands {d : Demand} (h : d ∈ b.demands w) (hd : d ≠ .nothing) :
    ∃ e ∈ b.entries, demand (e.line w) = d := by
  obtain ⟨l, hl, rfl⟩ := List.mem_map.mp h
  cases l with
  | remark r => exact absurd (demand_remark r.property) hd
  | entry e => exact ⟨e, List.mem_filterMap.mpr ⟨_, hl, rfl⟩, rfl⟩

theorem demand_mem {e : ProfileEntry} (he : e ∈ b.entries) :
    demand (e.line w) ∈ b.demands w := by
  obtain ⟨l, hl, hentry⟩ := List.mem_filterMap.mp he
  cases l with
  | remark r => cases hentry
  | entry e' =>
      cases hentry
      exact List.mem_map.mpr ⟨_, hl, rfl⟩

theorem Formed.finish_not_mem (h : b.Formed) (w : Vocabulary) : .finish ∉ b.demands w := by
  intro hmem
  obtain ⟨e, he, hfinish⟩ := mem_demands hmem nofun
  exact e.ne_finish w (h e he) hfinish

end ProfileBlock

section Reader

variable (env : Platform) (r : Reader)

/-- Only a closing line changes the list of profiles. -/
theorem Reader.handle_quiet {d : Demand} (h : d ≠ .finish) :
    (r.handle env d).profiles = r.profiles := by
  cases d with
  | nothing => rfl
  | begin => rfl
  | set f v =>
      show (if r.status = 1 then { r with t := r.t.store env f v } else r).profiles = r.profiles
      split
      · rfl
      · rfl
  | finish => exact absurd rfl h

theorem Reader.finish_status : (r.finish env).status ≠ 1 := by
  unfold finish
  dsimp only
  split
  · exact Nat.zero_ne_one
  · split
    · exact Nat.zero_ne_one
    · split
      · exact Nat.zero_ne_one
      · exact Nat.zero_ne_one

theorem Reader.finish_profiles_eq_nil_iff : (r.finish env).profiles = [] ↔
    r.profiles = [] ∧ ¬ (r.t.label ≠ "unspec" ∧ r.t.profileID ≠ -1) := by
  unfold finish
  dsimp only
  split
  · rename_i hlabel
    simp [hlabel]
  · rename_i hlabel
    split
    · rename_i hid
      simp [hid]
    · rename_i hid
      split
      · simp [hlabel, hid]
      · simp [hlabel, hid]

/-- No line takes a profile from the list. -/
theorem Reader.handle_prefix (d : Demand) : r.profiles <+: (r.handle env d).profiles := by
  by_cases hd : d = .finish
  · subst hd
    show r.profiles <+: (if r.status = 1 then r.finish env else r).profiles
    unfold finish
    dsimp only
    split
    · split
      · exact List.prefix_refl _
      · split
        · exact List.prefix_refl _
        · split
          · exact List.prefix_append _ _
          · exact List.prefix_append _ _
    · exact List.prefix_refl _
  · rw [r.handle_quiet env hd]

/-- In a profile the lines do what they ask for. -/
theorem Reader.foldl_body {r : Reader} (hr : r.status = 1) {ds : List Demand}
    (h : .finish ∉ ds) :
    ds.foldl (Reader.handle env) r = { r with t := ds.foldl (Demand.apply env) r.t } := by
  induction ds generalizing r with
  | nil => rfl
  | cons d ds ih =>
      have hline : r.handle env d = { r with t := d.apply env r.t } := by
        cases d with
        | nothing => rfl
        | begin => simp [handle, Demand.apply, hr]
        | set f v => simp [handle, Demand.apply, hr]
        | finish => exact absurd List.mem_cons_self h
      have hrest := ih (r := { r with t := d.apply env r.t }) hr
        fun hmem => h (List.mem_cons_of_mem d hmem)
      rw [List.foldl_cons, hline, hrest]
      rfl

/-- The validation check puts the profile of a block into the list. -/
theorem Reader.finish_of_accepted {r : Reader} {w : Vocabulary} {b : ProfileBlock}
    (hr : r.t = b.profile env w) (h : b.Accepted env w) :
    ∃ t, (r.finish env).profiles = r.profiles ++ [t] ∧ b.Reads env w t := by
  unfold finish
  rw [hr]
  dsimp only
  rw [if_neg h.1, if_neg h.2]
  by_cases hport : (b.profile env w).ownPort = 0
  · rw [if_pos hport]
    refine ⟨_, rfl, ?_, fun hne => absurd hport hne⟩
    rw [hport]
    exact hport ▸ rfl
  · rw [if_neg hport]
    exact ⟨_, rfl, rfl, fun _ => rfl⟩

/-- Or it drops it. -/
theorem Reader.finish_of_not_accepted {r : Reader} {w : Vocabulary} {b : ProfileBlock}
    (hr : r.t = b.profile env w) (h : ¬ b.Accepted env w) :
    (r.finish env).profiles = r.profiles := by
  unfold finish
  rw [hr]
  dsimp only
  by_cases hlabel : (b.profile env w).label = "unspec"
  · rw [if_pos hlabel]
  · have hid : (b.profile env w).profileID = -1 := not_not.mp fun hid => h ⟨hlabel, hid⟩
    rw [if_neg hlabel, if_pos hid]

end Reader

/-! ## Reading a file -/

/-- What the lines ask for that are read: those up to the first one that is too long, which
is cut off. -/
def heard (w : Vocabulary) (items : List FileItem) : List Demand :=
  ((untilLong bufferSize (items.flatMap (FileItem.lines w))).map (buffer bufferSize)).map demand

def FileItem.demands (w : Vocabulary) (i : FileItem) : List Demand := (i.lines w).map demand

section File

variable (env : Platform) (w : Vocabulary)

theorem readProfiles_fileText (final : Bool) (items : List FileItem) :
    readProfiles env (fileText w final items) =
      ((heard w items).foldl (Reader.handle env) {}).profiles := by
  have hempty (r : Reader) : r.line env [] = r := rfl
  have hnewline : ∀ l ∈ items.flatMap (FileItem.lines w), '\n' ∉ l := by
    intro l hl
    obtain ⟨i, -, hmem⟩ := List.mem_flatMap.mp hl
    exact i.newline_not_mem w l hmem
  unfold readProfiles fileText heard
  rw [getlines_unlines hempty final _ hnewline, List.foldl_map (f := demand)]
  rfl

variable {w} {items : List FileItem}

/-- Lines that fit are all read. -/
theorem heard_append (h : ∀ i ∈ items, i.Short w) (rest : List FileItem) :
    heard w (items ++ rest) = items.flatMap (FileItem.demands w) ++ heard w rest := by
  have hshort : ∀ l ∈ items.flatMap (FileItem.lines w), l.length < bufferSize := by
    intro l hl
    obtain ⟨i, hi, hmem⟩ := List.mem_flatMap.mp hl
    exact h i hi l hmem
  unfold heard
  rw [List.flatMap_append, untilLong_append hshort, List.map_append, List.map_append,
    map_buffer_of_short hshort, List.map_flatMap]
  rfl

theorem heard_of_short (h : ∀ i ∈ items, i.Short w) :
    heard w items = items.flatMap (FileItem.demands w) := by
  have happend := heard_append h []
  rw [List.append_nil] at happend
  rw [happend]
  exact List.append_nil _

theorem demands_remark (l : { l // Remark l }) : (FileItem.remark l).demands w = [.nothing] :=
  congrArg (fun d => [d]) (demand_remark l.property)

theorem demands_block (b : ProfileBlock) : (FileItem.block b).demands w =
    .begin :: (b.demands w ++ if b.close = none then [] else [.finish]) := by
  unfold FileItem.demands FileItem.lines ProfileBlock.lines ProfileBlock.demands
  rw [List.map_cons, demand_open b.indent.property, List.map_append, List.map_map]
  cases b.close with
  | none => rfl
  | some indent =>
      rw [List.map_singleton, demand_close indent.property, if_neg (Option.some_ne_none _)]
      rfl

/-- A part whose lines all fit gives the list the profile of its block, if the block is
closed and accepted. -/
theorem Reader.foldl_item (r : Reader) {i : FileItem}
    (hformed : ∀ b, i = .block b → b.Formed) :
    ∃ ps, ((i.demands w).foldl (Reader.handle env) r).profiles = r.profiles ++ ps ∧
      List.Forall₂ (fun b t => b.Reads env w t) (i.closed.filter (·.Accepted env w)) ps := by
  cases i with
  | remark l =>
      refine ⟨[], ?_, .nil⟩
      rw [demands_remark, List.append_nil]
      rfl
  | block b =>
      -- the opening line resets the profile in work, the body fills it
      have hbody := Reader.foldl_body env (r := { r with t := {}, status := 1 }) rfl
        ((hformed b rfl).finish_not_mem w)
      rw [demands_block, List.foldl_cons, List.foldl_append]
      have hopen : r.handle env .begin = { r with t := {}, status := 1 } := rfl
      rw [hopen, hbody]
      by_cases hclose : b.close = none
      · refine ⟨[], ?_, ?_⟩
        · rw [if_pos hclose, List.append_nil]
          rfl
        · simp [FileItem.closed, hclose]
      · rw [if_neg hclose]
        by_cases haccepted : b.Accepted env w
        · obtain ⟨t, ht, hreads⟩ := Reader.finish_of_accepted env
            (r := { r with t := b.profile env w, status := 1 }) rfl haccepted
          refine ⟨[t], ht, ?_⟩
          simpa [FileItem.closed, hclose, haccepted] using hreads
        · have hdropped := Reader.finish_of_not_accepted env
            (r := { r with t := b.profile env w, status := 1 }) rfl haccepted
          refine ⟨[], ?_, ?_⟩
          · rw [List.append_nil]
            exact hdropped
          · simp [FileItem.closed, hclose, haccepted]

theorem Reader.foldl_items (r : Reader) (hformed : ∀ b, .block b ∈ items → b.Formed) :
    ∃ ps, ((items.flatMap (FileItem.demands w)).foldl (Reader.handle env) r).profiles =
        r.profiles ++ ps ∧
      List.Forall₂ (fun b t => b.Reads env w t)
        ((items.flatMap FileItem.closed).filter (·.Accepted env w)) ps := by
  induction items generalizing r with
  | nil => exact ⟨[], (List.append_nil _).symm, .nil⟩
  | cons i items ih =>
      obtain ⟨ps, hps, hreads⟩ := Reader.foldl_item env (w := w) r (i := i)
        fun b hb => hformed b (hb ▸ List.mem_cons_self)
      obtain ⟨qs, hqs, hrest⟩ := ih ((i.demands w).foldl (Reader.handle env) r)
        fun b hb => hformed b (List.mem_cons_of_mem i hb)
      refine ⟨ps ++ qs, ?_, ?_⟩
      · rw [List.flatMap_cons, List.foldl_append, hqs, hps, List.append_assoc]
      · rw [List.flatMap_cons, List.filter_append]
        exact List.rel_append hreads hrest

end File

/-- What is read from a file with values in all entries, and with lines that fit: the
blocks that are closed and accepted. -/
theorem readProfiles_file (env : Platform) {w : Vocabulary} {items : List FileItem}
    (hshort : ∀ i ∈ items, i.Short w) (hformed : ∀ b, .block b ∈ items → b.Formed)
    (final : Bool) :
    List.Forall₂ (fun b t => b.Reads env w t)
      ((items.flatMap FileItem.closed).filter (·.Accepted env w))
      (readProfiles env (fileText w final items)) := by
  obtain ⟨ps, hps, hreads⟩ := Reader.foldl_items env (w := w) {} hformed
  rw [readProfiles_fileText, heard_of_short hshort, hps]
  exact hreads

end ScadaSim.Traffic
