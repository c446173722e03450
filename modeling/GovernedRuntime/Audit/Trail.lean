/-
The trail file as text: `parseAuditTrail` (`src/adapters/persistence-audit.ts`),
and what it reads of a file after a record has been put behind its text.
-/
import GovernedRuntime.Audit.Event
import GovernedRuntime.Library.Outcomes
import Mathlib.Algebra.GroupWithZero.Nat

namespace GovernedRuntime.Audit

open GovernedRuntime.Activation GovernedRuntime.Library

variable {N : Type} [JsonNumber N]

structure AuditError where
  code : String
  message : String
deriving DecidableEq, Repr

def notValidJsonl : AuditError :=
  ⟨"AUDIT_ENVELOPE_INVALID",
    "Audit trail contains a record that is not valid JSONL. Malformed audit " ++
      "records are unsupported and cannot be treated as verifiable evidence."⟩

def violatesEnvelope : AuditError :=
  ⟨"AUDIT_ENVELOPE_INVALID",
    "Audit trail contains a record that violates the canonical audit-chain.v3 event " ++
      "envelope. Non-v3 assurance artifacts are unsupported."⟩

/-- The events of one line: none when it is blank. -/
def parseLine (line : List Char) : Except AuditError (List (Json N)) :=
  let trimmed := trim (String.ofList line)
  if trimmed = "" then .ok []
  else
    match Json.parse trimmed with
    | none => .error notValidJsonl
    | some json =>
        match safeParse json with
        | none => .error violatesEnvelope
        | some event => .ok [event]

def parseLines : List (List Char) → Except AuditError (List (Json N))
  | [] => .ok []
  | line :: rest => do
      let events ← parseLine line
      let others ← parseLines rest
      return events ++ others

def parseAuditTrail (raw : String) : Except AuditError (List (Json N)) :=
  parseLines (raw.toList.splitOn '\n')

/-! ### Lines read one after another -/

theorem parseLines_cons {line : List Char} {rest : List (List Char)} {events : List (Json N)} :
    parseLines (line :: rest) = .ok events ↔
      ∃ first others, parseLine line = .ok first ∧ parseLines rest = .ok others ∧
        events = first ++ others := by
  simp only [parseLines, bind_eq_ok_iff, pure, Except.pure, Except.ok.injEq]
  constructor
  · rintro ⟨first, hfirst, others, hothers, rfl⟩
    exact ⟨first, others, hfirst, hothers, rfl⟩
  · rintro ⟨first, others, hfirst, hothers, rfl⟩
    exact ⟨first, hfirst, others, hothers, rfl⟩

theorem parseLines_append {lines lines' : List (List Char)} {events : List (Json N)} :
    parseLines (lines ++ lines') = .ok events ↔
      ∃ first rest, parseLines lines = .ok first ∧ parseLines lines' = .ok rest ∧
        events = first ++ rest := by
  induction lines generalizing events with
  | nil => simp [parseLines]
  | cons line lines ih =>
      simp only [List.cons_append, parseLines_cons, ih]
      constructor
      · rintro ⟨first, _, hfirst, ⟨others, rest, hothers, hrest, rfl⟩, rfl⟩
        exact ⟨first ++ others, rest, ⟨first, others, hfirst, hothers, rfl⟩, hrest,
          (List.append_assoc _ _ _).symm⟩
      · rintro ⟨_, rest, ⟨first, others, hfirst, hothers, rfl⟩, hrest, rfl⟩
        exact ⟨first, others ++ rest, hfirst, ⟨others, rest, hothers, hrest, rfl⟩,
          List.append_assoc _ _ _⟩

theorem parseLine_blank {line : List Char} (hblank : trim (String.ofList line) = "") :
    parseLine (N := N) line = .ok [] := by
  simp [parseLine, hblank]

/-- A line that was read is blank or holds one record. -/
theorem parseLine_cases {line : List Char} {events : List (Json N)}
    (hparse : parseLine line = .ok events) :
    (trim (String.ofList line) = "" ∧ events = []) ∨
      ∃ json event, Json.parse (trim (String.ofList line)) = some json ∧
        safeParse json = some event ∧ events = [event] := by
  unfold parseLine at hparse
  dsimp only at hparse
  split_ifs at hparse with hblank
  · cases hparse
    exact .inl ⟨hblank, rfl⟩
  · split at hparse
    · cases hparse
    · rename_i json hjson
      split at hparse
      · cases hparse
      · rename_i event hevent
        cases hparse
        exact .inr ⟨json, event, hjson, hevent, rfl⟩

/-- Every event of a trail was accepted by the schema. -/
theorem exists_json_of_parseLines {lines : List (List Char)} {events : List (Json N)}
    (hparse : parseLines lines = .ok events) :
    ∀ event ∈ events, ∃ json : Json N, json.distinct = true ∧ safeParse json = some event := by
  induction lines generalizing events with
  | nil =>
      cases hparse
      exact fun _ hmem => absurd hmem List.not_mem_nil
  | cons line rest ih =>
      obtain ⟨first, others, hfirst, hothers, rfl⟩ := parseLines_cons.1 hparse
      refine List.forall_mem_append.2 ⟨?_, ih hothers⟩
      rcases parseLine_cases hfirst with ⟨_, rfl⟩ | ⟨json, event, hjson, hevent, rfl⟩
      · exact fun _ hmem => absurd hmem List.not_mem_nil
      · exact List.forall_mem_singleton.2 ⟨json, Json.parse_distinct hjson, hevent⟩

/-! ### The last line -/

/-- What follows the last newline. -/
def lastLine (text : List Char) : List Char := text.rtakeWhile (· != '\n')

theorem newline_notMem_lastLine (text : List Char) : '\n' ∉ lastLine text := by
  intro hmem
  have hne := List.mem_rtakeWhile_imp hmem
  exact absurd hne (by decide)

/-- Only the last line changes when text is put behind a file. -/
theorem splitOn_append (text : List Char) :
    ∃ earlier, ∀ more : List Char,
      (text ++ more).splitOn '\n' = earlier ++ (lastLine text ++ more).splitOn '\n' := by
  have htext := List.rdropWhile_append_rtakeWhile (p := (· != '\n')) (l := text)
  rcases List.eq_nil_or_concat' (text.rdropWhile (· != '\n')) with hnil | ⟨before, c, hconcat⟩
  · refine ⟨[], fun more => ?_⟩
    rw [hnil, List.nil_append] at htext
    rw [lastLine, htext, List.nil_append]
  · have hlast := List.rdropWhile_last_not (p := (· != '\n')) text
      (by rw [hconcat]; simp)
    simp only [hconcat, List.getLast_append_singleton, bne_iff_ne, not_not] at hlast
    subst hlast
    refine ⟨before.splitOn '\n', fun more => ?_⟩
    have hmore : text ++ more = before ++ '\n' :: (lastLine text ++ more) := by
      rw [hconcat, List.append_assoc] at htext
      conv_lhs => rw [← htext]
      rw [List.append_assoc]
      rfl
    rw [hmore, List.splitOn_append_cons_self]

/-- The lines of a file before and after one line of text is put behind it. -/
theorem exists_lines (text : List Char) :
    ∃ earlier, text.splitOn '\n' = earlier ++ [lastLine text] ∧
      ∀ record : List Char, '\n' ∉ record →
        (text ++ (record ++ ['\n'])).splitOn '\n' =
          earlier ++ [lastLine text ++ record, []] := by
  obtain ⟨earlier, hsplit⟩ := splitOn_append text
  refine ⟨earlier, ?_, fun record hrecord => ?_⟩
  · have hself := hsplit []
    rwa [List.append_nil, List.append_nil,
      List.splitOn_eq_singleton (newline_notMem_lastLine text)] at hself
  · have hline : '\n' ∉ lastLine text ++ record := by
      simp [newline_notMem_lastLine, hrecord]
    rw [hsplit, ← List.append_assoc, List.splitOn_append_cons_self,
      List.splitOn_eq_singleton hline, List.splitOn_nil]
    rfl

/-! ### Blank text -/

def isBlank (line : List Char) : Bool := line.all isTrimmed

theorem trim_eq_empty_iff {line : List Char} :
    trim (String.ofList line) = "" ↔ isBlank line = true := by
  have hempty : ∀ chars : List Char, String.ofList chars = "" ↔ chars = [] := by
    intro chars
    constructor
    · intro h
      have hchars := congrArg String.toList h
      rwa [String.toList_ofList] at hchars
    · rintro rfl
      rfl
  rw [trim, hempty, String.toList_ofList, isBlank, List.all_eq_true]
  constructor
  · intro hnil
    by_contra hall
    have hdrop : line.dropWhile isTrimmed ≠ [] := fun h => hall (List.dropWhile_eq_nil_iff.1 h)
    have hhead := List.dropWhile_get_zero_not isTrimmed line (List.length_pos_iff.2 hdrop)
    exact hhead (List.rdropWhile_eq_nil_iff.1 hnil _ (List.get_mem _ _))
  · intro hall
    rw [List.dropWhile_eq_nil_iff.2 hall, List.rdropWhile_nil]

/-- Of text that stands before a braced one, only blanks at its start are cut off. -/
theorem trim_append_braced (line middle : List Char) :
    trim (String.ofList (line ++ '{' :: (middle ++ ['}']))) =
      String.ofList (line.dropWhile isTrimmed ++ '{' :: (middle ++ ['}'])) := by
  have hdrop : (line ++ '{' :: (middle ++ ['}'])).dropWhile isTrimmed =
      line.dropWhile isTrimmed ++ '{' :: (middle ++ ['}']) := by
    induction line with
    | nil => rfl
    | cons c rest ih =>
        rw [List.cons_append, List.dropWhile_cons, List.dropWhile_cons]
        split_ifs
        · exact ih
        · rfl
  have hlast : line.dropWhile isTrimmed ++ '{' :: (middle ++ ['}']) =
      (line.dropWhile isTrimmed ++ '{' :: middle) ++ ['}'] := by simp
  rw [trim, String.toList_ofList, hdrop, hlast]
  exact congrArg String.ofList (List.rdropWhile_concat_neg isTrimmed _ '}' (by decide))

theorem exists_gap (line : List Char) :
    ∃ gap : List Char, (∀ c ∈ gap, isTrimmed c = true) ∧
      line.dropWhile isTrimmed = (trim (String.ofList line)).toList ++ gap := by
  refine ⟨(line.dropWhile isTrimmed).rtakeWhile isTrimmed,
    fun c hmem => List.mem_rtakeWhile_imp hmem, ?_⟩
  rw [trim, String.toList_ofList, String.toList_ofList, List.rdropWhile_append_rtakeWhile]

/-- The characters `trim` removes lie around those of JSON tokens. -/
theorem toNat_of_isTrimmed {c : Char} (htrimmed : isTrimmed c = true) :
    c.toNat ≤ 0x20 ∨ 0xA0 ≤ c.toNat := by
  simp only [isTrimmed, Bool.or_eq_true, List.contains_iff_mem, List.mem_cons, List.not_mem_nil,
    or_false, Bool.and_eq_true, decide_eq_true_eq] at htrimmed
  omega

omit [JsonNumber N] in
theorem isGap_of_isTrimmed {c : Char} (htrimmed : isTrimmed c = true) :
    Lexer.IsGap (N := N) c := by
  have hrange := toNat_of_isTrimmed htrimmed
  have hne : ∀ {d : Char}, 0x20 < d.toNat → d.toNat < 0xA0 → c ≠ d := by
    rintro d hlow hhigh rfl
    omega
  refine ⟨?_, hne (by decide) (by decide), ?_⟩
  · by_contra hword
    have hranges : c.isAlphanum = (decide (c.val ≥ 'A'.val ∧ c.val ≤ 'Z'.val) ||
        (decide (c.val ≥ 'a'.val) && decide (c.val ≤ 'z'.val)) ||
        (decide (c.val ≥ '0'.val) && decide (c.val ≤ '9'.val))) := rfl
    simp only [Bool.not_eq_false, isWordChar, hranges, Bool.or_eq_true, Bool.and_eq_true,
      decide_eq_true_eq,
      List.contains_iff_mem, List.mem_cons, List.not_mem_nil, or_false,
      UInt32.le_iff_toNat_le, ge_iff_le] at hword
    rcases hword with ((hupper | hlower) | hdigit) | rfl | rfl | rfl
    · simp at hupper
      omega
    · simp at hlower
      omega
    · simp at hdigit
      omega
    · exact absurd htrimmed (by decide)
    · exact absurd htrimmed (by decide)
    · exact absurd htrimmed (by decide)
  · unfold punctuation
    split
    all_goals first
      | rfl
      | exact absurd htrimmed (by decide)

/-! ### A record behind the text of a file -/

/-- Whether what follows the last newline is blank. -/
def endsBlank (existing : String) : Bool := isBlank (lastLine existing.toList)

/-- The text the file has once the record is written. -/
def withRecord (existing : String) (record : Json N) : String :=
  existing ++ record.stringify ++ "\n"

theorem newline_notMem_stringify (value : Json N) : '\n' ∉ value.stringify.toList := by
  intro hmem
  exact absurd (Json.toNat_ge_of_mem_stringify hmem) (by decide)

/-- The lines of a file before and after a record is put behind its text, and
what was read of them. -/
theorem exists_parseLines {existing : String} {events : List (Json N)}
    (hexisting : parseAuditTrail existing = .ok events) :
    ∃ earlier first last, parseLines (N := N) earlier = .ok first ∧
      parseLine (lastLine existing.toList) = .ok last ∧ events = first ++ last ∧
      ∀ (record : Json N) events', parseAuditTrail (withRecord existing record) = .ok events' ↔
        ∃ read, parseLine (lastLine existing.toList ++ record.stringify.toList) = .ok read ∧
          events' = first ++ read := by
  obtain ⟨earlier, hsplit, hmore⟩ := exists_lines existing.toList
  rw [parseAuditTrail, hsplit] at hexisting
  obtain ⟨first, rest, hfirst, hrest, rfl⟩ := parseLines_append.1 hexisting
  obtain ⟨last, others, hlast, hothers, rfl⟩ := parseLines_cons.1 hrest
  cases hothers
  refine ⟨earlier, first, last, hfirst, hlast, by rw [List.append_nil], fun record events' => ?_⟩
  have htext : (withRecord existing record).toList =
      existing.toList ++ (record.stringify.toList ++ ['\n']) := by
    simp [withRecord]
  rw [parseAuditTrail, htext, hmore _ (newline_notMem_stringify record), parseLines_append]
  have hblank : parseLines (N := N) [[]] = .ok [] :=
    parseLines_cons.2 ⟨[], [], parseLine_blank rfl, rfl, rfl⟩
  constructor
  · rintro ⟨first', rest, hfirst', hrest, rfl⟩
    obtain ⟨read, others, hread, hothers, rfl⟩ := parseLines_cons.1 hrest
    rw [hfirst] at hfirst'
    rw [hblank] at hothers
    cases hfirst'
    cases hothers
    exact ⟨read, hread, by rw [List.append_nil]⟩
  · rintro ⟨read, hread, rfl⟩
    refine ⟨first, read, hfirst, parseLines_cons.2 ⟨read, [], hread, hblank, ?_⟩, rfl⟩
    rw [List.append_nil]

theorem parseLine_record {line : List Char} (hblank : isBlank line = true)
    {fields : List (String × Json N)} {event : Json N}
    (hdistinct : (Json.object fields).distinct = true)
    (hparse : safeParse (Json.object fields).printed = some event) :
    parseLine (line ++ (Json.object fields).stringify.toList) = .ok [event] := by
  obtain ⟨middle, hbraces⟩ := Json.stringify_object fields
  have hdrop : line.dropWhile isTrimmed = [] :=
    List.dropWhile_eq_nil_iff.2 (List.all_eq_true.1 hblank)
  have htrim : trim (String.ofList (line ++ (Json.object fields).stringify.toList)) =
      (Json.object fields).stringify := by
    rw [hbraces, trim_append_braced, hdrop, List.nil_append, ← hbraces, String.ofList_toList]
  have hne : (Json.object fields).stringify ≠ "" := by
    intro hempty
    rw [hempty] at hbraces
    cases hbraces
  simp only [parseLine, htrim, if_neg hne, Json.parse_stringify hdistinct, hparse]

/-- Behind a blank end the record is read as one event more. -/
theorem parseAuditTrail_withRecord {existing : String} {events : List (Json N)}
    (hexisting : parseAuditTrail existing = .ok events) (hblank : endsBlank existing = true)
    {fields : List (String × Json N)} {event : Json N}
    (hdistinct : (Json.object fields).distinct = true)
    (hparse : safeParse (Json.object fields).printed = some event) :
    parseAuditTrail (withRecord existing (.object fields)) = .ok (events ++ [event]) := by
  obtain ⟨_, first, last, _, hlast, rfl, hrecord⟩ := exists_parseLines hexisting
  have hnil : last = [] := by
    rw [parseLine_blank (trim_eq_empty_iff.2 hblank)] at hlast
    cases hlast
    rfl
  subst hnil
  rw [List.append_nil]
  exact (hrecord _ _).2 ⟨[event], parseLine_record hblank hdistinct hparse, rfl⟩

/-- A file of one record that no newline ends. -/
theorem parseAuditTrail_unterminated {fields : List (String × Json N)} {event : Json N}
    (hdistinct : (Json.object fields).distinct = true)
    (hparse : safeParse (Json.object fields).printed = some event) :
    parseAuditTrail (Json.object fields).stringify = .ok [event] := by
  rw [parseAuditTrail, List.splitOn_eq_singleton (newline_notMem_stringify _)]
  exact parseLines_cons.2
    ⟨[event], [], @parseLine_record _ _ [] rfl _ _ hdistinct hparse, rfl, rfl⟩

/-- Behind text that is not blank the record makes the last line unreadable. -/
theorem parseAuditTrail_withRecord_unreadable {existing : String} {events : List (Json N)}
    (hexisting : parseAuditTrail existing = .ok events) (hblank : endsBlank existing = false)
    (fields : List (String × Json N)) (events' : List (Json N)) :
    parseAuditTrail (withRecord existing (.object fields)) ≠ .ok events' := by
  obtain ⟨_, first, last, _, hlast, _, hrecord⟩ := exists_parseLines hexisting
  obtain ⟨middle, hbraces⟩ := Json.stringify_object fields
  obtain ⟨gap, hgap, htext⟩ := exists_gap (lastLine existing.toList)
  intro hparse
  obtain ⟨read, hread, _⟩ := (hrecord _ _).1 hparse
  have hlastJson : (Json.parse (N := N)
      (trim (String.ofList (lastLine existing.toList)))).isSome = true := by
    rcases parseLine_cases hlast with ⟨hempty, _⟩ | ⟨json, _, hjson, _⟩
    · rw [trim_eq_empty_iff] at hempty
      exact absurd (hempty.symm.trans hblank) (by decide)
    · rw [hjson]
      rfl
  have hnone := @Json.parse_append_object _ _ _ _ (middle ++ ['}']) hlastJson
    fun c hmem => isGap_of_isTrimmed (hgap c hmem)
  rcases parseLine_cases hread with ⟨hempty, _⟩ | ⟨json, _, hjson, _⟩
  · rw [hbraces, trim_append_braced] at hempty
    have hchars := congrArg String.toList hempty
    rw [String.toList_ofList] at hchars
    exact absurd hchars (by simp)
  · rw [hbraces, trim_append_braced, htext, List.append_assoc, hnone] at hjson
    cases hjson

theorem endsBlank_unterminated (fields : List (String × Json N)) :
    endsBlank (Json.object fields).stringify = false := by
  obtain ⟨middle, hbraces⟩ := Json.stringify_object fields
  have hall : lastLine (Json.object fields).stringify.toList =
      (Json.object fields).stringify.toList := by
    refine List.rtakeWhile_eq_self_iff.2 fun c hmem => ?_
    rw [bne_iff_ne]
    rintro rfl
    exact newline_notMem_stringify _ hmem
  have hbrace : isTrimmed '{' = false := by decide
  rw [endsBlank, hall, hbraces, isBlank, List.all_cons, hbrace, Bool.false_and]

/-- A written record ends its line. -/
theorem endsBlank_withRecord (existing : String) (record : Json N) :
    endsBlank (withRecord existing record) = true := by
  rw [endsBlank, withRecord, String.toList_append, show "\n".toList = ['\n'] from rfl, lastLine,
    List.rtakeWhile_concat_neg _ _ _ (by decide)]
  rfl

/-! ### How many events a text holds -/

/-- The longest string of the language. -/
def maxStringLength : Nat := 9007199254740991

theorem sum_length_splitOn (text : List Char) :
    ((text.splitOn '\n').map List.length).sum + (text.splitOn '\n').length =
      text.length + 1 := by
  induction text with
  | nil => simp
  | cons c rest ih =>
      rw [List.splitOn_cons_eq_if_modifyHead]
      split_ifs with hnewline
      · simp only [List.map_cons, List.length_nil, List.sum_cons, List.length_cons]
        omega
      · obtain ⟨line, lines, hlines⟩ :=
          List.exists_cons_of_ne_nil (List.splitOn_ne_nil '\n' rest)
        rw [hlines] at ih ⊢
        simp only [List.modifyHead_cons, List.map_cons, List.sum_cons, List.length_cons] at ih ⊢
        omega

/-- Every event takes a line of its own that is not empty. -/
theorem length_parseLines {lines : List (List Char)} {events : List (Json N)}
    (hparse : parseLines lines = .ok events) :
    2 * events.length ≤ (lines.map List.length).sum + lines.length := by
  induction lines generalizing events with
  | nil =>
      cases hparse
      exact Nat.zero_le _
  | cons line rest ih =>
      obtain ⟨first, others, hfirst, hothers, rfl⟩ := parseLines_cons.1 hparse
      have hrest := ih hothers
      simp only [List.length_append, List.map_cons, List.sum_cons, List.length_cons]
      rcases parseLine_cases hfirst with ⟨_, rfl⟩ | ⟨json, event, hjson, _, rfl⟩
      · simp only [List.length_nil]
        omega
      · have hne : line.length ≠ 0 := by
          rintro hzero
          rw [List.length_eq_zero_iff] at hzero
          subst hzero
          have hnone : Json.parse (N := N) (trim (String.ofList [])) = none := rfl
          rw [hnone] at hjson
          cases hjson
        simp only [List.length_singleton]
        omega

theorem length_lt_of_parseAuditTrail {existing : String} {events : List (Json N)}
    (hlength : existing.length ≤ maxStringLength)
    (hexisting : parseAuditTrail existing = .ok events) : events.length < maxExactNat := by
  have hevents := length_parseLines hexisting
  rw [sum_length_splitOn, String.length_toList] at hevents
  rw [maxExactNat]
  rw [maxStringLength] at hlength
  omega

end GovernedRuntime.Audit
