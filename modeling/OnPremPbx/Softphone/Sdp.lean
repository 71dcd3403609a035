import OnPremPbx.Text.Lines
import OnPremPbx.Text.Search

/-!
# The order of the codecs

`preferOpus` (`sdp.ts`) moves the payload type of Opus to the front of the audio media lines. A text
is a list of UTF-16 code units. A text in which no Opus is offered stays as it is; in any other one
all lines end with CR and LF afterwards, but only the audio media lines are changed.
-/

open Text

namespace Sdp

abbrev CodeUnits := List UInt16

/-- A literal, which is ASCII. -/
def units (s : String) : CodeUnits := s.toList.map fun c => UInt16.ofNat c.toNat

def SP : UInt16 := 0x20

def CR : UInt16 := 0x0D

def LF : UInt16 := 0x0A

/-! ### Regular expressions -/

/-- What two code units are compared by where case is ignored and one of them is ASCII. -/
def upper (u : UInt16) : UInt16 := if 0x61 ≤ u ∧ u ≤ 0x7A then u - 0x20 else u

/-- The class `\d`. -/
def isDigit (u : UInt16) : Bool := 0x30 ≤ u ∧ u ≤ 0x39

/-- The class `\s`: white space and the ends of lines. -/
def isSpace (u : UInt16) : Bool :=
  (0x09 ≤ u ∧ u ≤ 0x0D) ∨ u = 0x20 ∨ u = 0xA0 ∨ u = 0x1680 ∨ (0x2000 ≤ u ∧ u ≤ 0x200A) ∨
    u = 0x2028 ∨ u = 0x2029 ∨ u = 0x202F ∨ u = 0x205F ∨ u = 0x3000 ∨ u = 0xFEFF

/-- A text behind a literal, with case ignored. -/
def behind (literal s : CodeUnits) : Option CodeUnits :=
  if literal.map upper <+: s.map upper then some (s.drop literal.length) else none

/-- The first group of a match of `/^a=rtpmap:(\d+)\s+opus\//i`. Digits are no white space, and the
letter after it is neither, so that each class takes all it can. -/
def rtpmapOpus (line : CodeUnits) : Option CodeUnits := do
  let rest ← behind (units "a=rtpmap:") line
  let digits := rest.takeWhile isDigit
  let rest := rest.dropWhile isDigit
  let spaces := rest.takeWhile isSpace
  if digits = [] ∨ spaces = [] then none
  else
    let _ ← behind (units "opus/") (rest.dropWhile isSpace)
    some digits

/-! ### Media lines -/

def IsAudio (line : CodeUnits) : Prop := units "m=audio " <+: line

instance (line : CodeUnits) : Decidable (IsAudio line) := inferInstanceAs (Decidable (_ <+: _))

/-- The media type, the port and the protocol. -/
def mediaHead (line : CodeUnits) : List CodeUnits := (line.splitOn SP).take 3

def payloadTypes (line : CodeUnits) : List CodeUnits := (line.splitOn SP).drop 3

/-- What `preferOpus` makes of a line. -/
def preferLine (opus line : CodeUnits) : CodeUnits :=
  if IsAudio line then
    let parts := line.splitOn SP
    if parts.length ≤ 3 ∨ opus ∉ parts.drop 3 then line
    else
      let head := parts.take 3
      let pts := parts.drop 3
      [SP].intercalate (head ++ opus :: pts.filter (· ≠ opus))
  else line

def preferOpus (sdp : CodeUnits) : CodeUnits :=
  let lines := splitLines CR LF sdp
  match lines.findSome? rtpmapOpus with
  | none      => sdp
  | some opus => [CR, LF].intercalate (lines.map (preferLine opus))

/-- A line and what is made of it. -/
structure OnlyReorders (opus line line' : CodeUnits) : Prop where
  other : ¬ IsAudio line → line' = line
  head : mediaHead line' = mediaHead line
  same : (payloadTypes line').Perm (payloadTypes line)
  order : (payloadTypes line').filter (· ≠ opus) = (payloadTypes line).filter (· ≠ opus)
  first : IsAudio line → opus ∈ payloadTypes line → (payloadTypes line').head? = some opus

/-! ### What is made of a line -/

variable {opus line pt : CodeUnits}

/-- The first field of an audio media line, with another one after it. -/
lemma isAudio_iff :
    IsAudio line ↔ ∃ rest, rest ≠ [] ∧ line.splitOn SP = units "m=audio" :: rest := by
  have hprefix : units "m=audio " = units "m=audio" ++ [SP] := by decide
  rw [IsAudio, hprefix]
  constructor
  · rintro ⟨t, rfl⟩
    refine ⟨t.splitOn SP, List.splitOn_ne_nil _ _, ?_⟩
    rw [List.append_assoc, List.singleton_append,
      List.splitOn_append_cons_self_of_not_mem (by decide)]
  · rintro ⟨rest, hrest, hsplit⟩
    obtain ⟨p, ps, rfl⟩ := List.exists_cons_of_ne_nil hrest
    rw [← @List.intercalate_splitOn _ line _ _ SP, hsplit, List.intercalate_cons_cons]
    exact List.prefix_append _ _

/-- An audio media line is no attribute. -/
lemma rtpmapOpus_of_isAudio (h : IsAudio line) : rtpmapOpus line = none := by
  obtain ⟨t, rfl⟩ := h
  have hnot : ¬ (units "a=rtpmap:").map upper <+: (units "m=audio " ++ t).map upper := by
    have hattribute : (units "a=rtpmap:").map upper =
        0x41 :: ((units "a=rtpmap:").map upper).tail := by decide
    have hmedia : (units "m=audio ").map upper =
        0x4D :: ((units "m=audio ").map upper).tail := by decide
    rw [List.map_append, hattribute, hmedia, List.cons_append, List.cons_prefix_cons]
    exact fun hpre => absurd hpre.1 (by decide)
  rw [rtpmapOpus, behind, if_neg hnot]
  rfl

/-- A line that is changed. -/
lemma splitOn_preferLine (h : IsAudio line) (hopus : opus ∈ payloadTypes line) :
    (mediaHead line).length = 3 ∧ (preferLine opus line).splitOn SP =
      mediaHead line ++ opus :: (payloadTypes line).filter (· ≠ opus) := by
  have hlength : ¬ (line.splitOn SP).length ≤ 3 := fun hle => by
    rw [payloadTypes, List.drop_eq_nil_of_le hle] at hopus
    cases hopus
  have hsp : ∀ p ∈ line.splitOn SP, SP ∉ p := fun p hp => (not_mem_of_mem_splitOn hp).1
  refine ⟨?_, ?_⟩
  · rw [mediaHead, List.length_take]
    omega
  · have hdrop : opus ∈ (line.splitOn SP).drop 3 := hopus
    rw [preferLine, if_pos h]
    dsimp only
    rw [if_neg (not_or.mpr ⟨hlength, not_not.mpr hdrop⟩)]
    refine List.splitOn_intercalate SP (fun p hp => ?_) (by simp)
    rw [List.mem_append, List.mem_cons] at hp
    obtain hp | rfl | hp := hp
    · exact hsp p (List.mem_of_mem_take hp)
    · exact hsp p (List.mem_of_mem_drop hopus)
    · exact hsp p (List.mem_of_mem_drop (List.mem_of_mem_filter hp))

/-- Any other line stays as it is. -/
lemma preferLine_of_not (h : ¬ (IsAudio line ∧ opus ∈ payloadTypes line)) :
    preferLine opus line = line := by
  rw [preferLine]
  split_ifs with haudio
  · dsimp only
    rw [if_pos (.inr fun hmem => h ⟨haudio, hmem⟩)]
  · rfl

lemma isAudio_preferLine (h : IsAudio line) : IsAudio (preferLine opus line) := by
  by_cases hopus : opus ∈ payloadTypes line
  · obtain ⟨hthree, hsplit⟩ := splitOn_preferLine h hopus
    obtain ⟨rest, -, hline⟩ := isAudio_iff.mp h
    rw [mediaHead, hline, List.take_succ_cons, List.cons_append] at hsplit
    exact isAudio_iff.mpr ⟨_, by simp, hsplit⟩
  · rwa [preferLine_of_not fun hboth => hopus hboth.2]

/-- The fields of a line that is changed. -/
lemma fields_preferLine (h : IsAudio line) (hopus : opus ∈ payloadTypes line) :
    mediaHead (preferLine opus line) = mediaHead line ∧
      payloadTypes (preferLine opus line) = opus :: (payloadTypes line).filter (· ≠ opus) := by
  obtain ⟨hthree, hsplit⟩ := splitOn_preferLine h hopus
  rw [mediaHead, payloadTypes, hsplit]
  exact ⟨List.take_left' hthree, List.drop_left' hthree⟩

/-- A line whose payload types are distinct. -/
lemma onlyReorders_preferLine (hdistinct : IsAudio line → (payloadTypes line).Nodup) :
    OnlyReorders opus line (preferLine opus line) := by
  by_cases h : IsAudio line ∧ opus ∈ payloadTypes line
  · obtain ⟨haudio, hopus⟩ := h
    obtain ⟨hhead, htypes⟩ := fields_preferLine haudio hopus
    constructor
    case other => exact fun hnot => absurd haudio hnot
    case head => exact hhead
    case same =>
      have herase : (payloadTypes line).filter (· ≠ opus) = (payloadTypes line).erase opus := by
        rw [(hdistinct haudio).erase_eq_filter]
        exact List.filter_congr fun p _ => Bool.eq_iff_iff.mpr (by simp)
      rw [htypes, herase]
      exact (List.perm_cons_erase hopus).symm
    case order =>
      rw [htypes, List.filter_cons_of_neg (by simp), List.filter_filter]
      simp
    case first =>
      intro _ _
      rw [htypes]
      rfl
  · rw [preferLine_of_not h]
    exact ⟨fun _ => rfl, rfl, .refl _, rfl, fun haudio hopus => absurd ⟨haudio, hopus⟩ h⟩

/-- A line is changed once. -/
lemma preferLine_preferLine (opus line : CodeUnits) :
    preferLine opus (preferLine opus line) = preferLine opus line := by
  by_cases h : IsAudio line ∧ opus ∈ payloadTypes line
  · obtain ⟨haudio, hopus⟩ := h
    obtain ⟨hhead, htypes⟩ := fields_preferLine haudio hopus
    have hagain : opus ∈ payloadTypes (preferLine opus line) := htypes ▸ List.mem_cons_self
    have hsplit := (splitOn_preferLine (isAudio_preferLine haudio) hagain).2
    rw [hhead, htypes, List.filter_cons_of_neg (by simp), List.filter_filter] at hsplit
    simp only [Bool.and_self] at hsplit
    rw [← (splitOn_preferLine haudio hopus).2] at hsplit
    rw [← @List.intercalate_splitOn _ (preferLine opus (preferLine opus line)) _ _ SP, hsplit,
      List.intercalate_splitOn]
  · rw [preferLine_of_not h, preferLine_of_not h]

/-! ### What is made of a text -/

/-- The attributes stay as they are. -/
lemma rtpmapOpus_preferLine (opus line : CodeUnits) :
    rtpmapOpus (preferLine opus line) = rtpmapOpus line := by
  by_cases h : IsAudio line
  · rw [rtpmapOpus_of_isAudio h, rtpmapOpus_of_isAudio (isAudio_preferLine h)]
  · rw [preferLine_of_not fun hboth => h hboth.1]

/-- No end of a line comes into it. -/
lemma not_mem_preferLine (h : LF ∉ line) : LF ∉ preferLine opus line := by
  by_cases hboth : IsAudio line ∧ opus ∈ payloadTypes line
  · have hpieces : ∀ p ∈ line.splitOn SP, LF ∉ p := fun p hp hmem =>
      h ((not_mem_of_mem_splitOn hp).2 LF hmem)
    rw [← @List.intercalate_splitOn _ (preferLine opus line) _ _ SP,
      (splitOn_preferLine hboth.1 hboth.2).2]
    refine not_mem_intercalate (by decide) fun p hp => ?_
    rw [List.mem_append, List.mem_cons] at hp
    obtain hp | rfl | hp := hp
    · exact hpieces p (List.mem_of_mem_take hp)
    · exact hpieces p (List.mem_of_mem_drop hboth.2)
    · exact hpieces p (List.mem_of_mem_drop (List.mem_of_mem_filter hp))
  · rwa [preferLine_of_not hboth]

variable {sdp : CodeUnits} {lines : List CodeUnits}

lemma preferOpus_of_none (hlines : HasLines CR LF lines sdp)
    (h : lines.findSome? rtpmapOpus = none) : preferOpus sdp = sdp := by
  rw [preferOpus, (hasLines_iff (by decide)).mp hlines, h]

/-- The lines of a text that is changed. -/
lemma preferOpus_of_some (hlines : HasLines CR LF lines sdp)
    (h : lines.findSome? rtpmapOpus = some opus) :
    preferOpus sdp = [CR, LF].intercalate (lines.map (preferLine opus)) ∧
      HasLines CR LF (lines.map (preferLine opus)) (preferOpus sdp) := by
  have htext : preferOpus sdp = [CR, LF].intercalate (lines.map (preferLine opus)) := by
    rw [preferOpus, (hasLines_iff (by decide)).mp hlines, h]
  refine ⟨htext, htext ▸ HasLines.intercalate ?_ ?_⟩
  · simpa using hlines.ne_nil
  · rw [List.forall_mem_map]
    exact fun line hline => not_mem_preferLine (hlines.not_mem line hline)

lemma preferOpus_preferOpus (hlines : HasLines CR LF lines sdp) :
    preferOpus (preferOpus sdp) = preferOpus sdp := by
  cases h : lines.findSome? rtpmapOpus with
  | none =>
    rw [preferOpus_of_none hlines h, preferOpus_of_none hlines h]
  | some opus =>
    obtain ⟨htext, hlines'⟩ := preferOpus_of_some hlines h
    have hsame : (lines.map (preferLine opus)).findSome? rtpmapOpus = some opus := by
      rw [List.findSome?_map, ← h]
      exact congrArg (List.findSome? · lines) (funext fun line => rtpmapOpus_preferLine opus line)
    rw [(preferOpus_of_some hlines' hsame).1, htext, List.map_map]
    exact congrArg _ (List.map_congr_left fun line _ => preferLine_preferLine opus line)

/-- Where the payload types of a media line are distinct, and one is that of Opus, the payload types
of the audio media lines are reordered at most, and nothing else is changed but the ends of the
lines. -/
theorem preferOpus_onlyReorders (hlines : HasLines CR LF lines sdp)
    (hdistinct : ∀ line ∈ lines, IsAudio line → (payloadTypes line).Nodup)
    (hsingle : ∀ line ∈ lines, ∀ line' ∈ lines, ∀ opus ∈ rtpmapOpus line,
      ∀ opus' ∈ rtpmapOpus line', opus' = opus) :
    ((∀ line ∈ lines, rtpmapOpus line = none) → preferOpus sdp = sdp) ∧
      (∀ line ∈ lines, ∀ opus ∈ rtpmapOpus line, ∃ lines', HasLines CR LF lines' (preferOpus sdp) ∧
        preferOpus sdp = [CR, LF].intercalate lines' ∧
        List.Forall₂ (OnlyReorders opus) lines lines') ∧
      preferOpus (preferOpus sdp) = preferOpus sdp := by
  refine ⟨fun hnone => ?_, fun line hline opus hopus => ?_, preferOpus_preferOpus hlines⟩
  · exact preferOpus_of_none hlines (List.findSome?_eq_none_iff.mpr hnone)
  · have hfound : lines.findSome? rtpmapOpus = some opus := by
      cases h : lines.findSome? rtpmapOpus with
      | none =>
        rw [List.findSome?_eq_none_iff.mp h line hline] at hopus
        cases hopus
      | some opus' =>
        obtain ⟨line', hline', hopus'⟩ := List.exists_of_findSome?_eq_some h
        rw [hsingle line hline line' hline' opus hopus opus' hopus']
    obtain ⟨htext, hlines'⟩ := preferOpus_of_some hlines hfound
    refine ⟨_, hlines', htext, List.forall₂_map_right_iff.mpr (List.forall₂_same.mpr ?_)⟩
    exact fun line hline => onlyReorders_preferLine (hdistinct line hline)

/-- An offer with lines that end with LF. -/
theorem preferOpus_offer :
    preferOpus (units "m=audio 9 RTP/AVP 0 111\na=rtpmap:111 opus/48000/2") =
        units "m=audio 9 RTP/AVP 111 0\r\na=rtpmap:111 opus/48000/2" ∧
      preferOpus (units "m=audio 9 RTP/AVP 111 0\r\na=rtpmap:111 opus/48000/2") =
        units "m=audio 9 RTP/AVP 111 0\r\na=rtpmap:111 opus/48000/2" := by
  have hlines : HasLines CR LF [units "m=audio 9 RTP/AVP 0 111", units "a=rtpmap:111 opus/48000/2"]
      (units "m=audio 9 RTP/AVP 0 111\na=rtpmap:111 opus/48000/2") :=
    (hasLines_iff (by decide)).mpr (by decide +kernel)
  have htext : preferOpus (units "m=audio 9 RTP/AVP 0 111\na=rtpmap:111 opus/48000/2") =
      units "m=audio 9 RTP/AVP 111 0\r\na=rtpmap:111 opus/48000/2" := by decide +kernel
  obtain ⟨-, -, hagain⟩ :=
    preferOpus_onlyReorders hlines (by decide +kernel) (by decide +kernel)
  exact ⟨htext, htext ▸ hagain⟩

end Sdp
