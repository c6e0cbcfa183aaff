import FeatureCert.Log.Event
import FeatureCert.Proofs.Decoded
import FeatureCert.Proofs.Printed

/-!
JSON lines of the log. A line is printable ASCII, and it is read as the record of its event, but for halves of a
pair that stand next to each other in a text: these come back as one character.
-/
namespace FeatureCert

open FeatureCert.Text FeatureCert.Numeral

namespace Text

variable {a b : String} {p q : Point} {ps qs : Points} {parts : List String}

@[simp] theorem isPrintable_append : IsPrintable (a ++ b) ↔ IsPrintable a ∧ IsPrintable b := by
  simp only [IsPrintable, String.toList_append, List.forall_mem_append]

theorem isPrintable_commas (h : ∀ part ∈ parts, IsPrintable part) : IsPrintable (", ".intercalate parts) := by
  induction parts with
  | nil => decide
  | cons part rest ih =>
    rw [List.forall_mem_cons] at h
    cases rest with
    | nil => simpa using h.1
    | cons next last =>
      rw [String.intercalate_cons_cons, isPrintable_append, isPrintable_append]
      exact ⟨⟨h.1, by decide⟩, ih h.2⟩

/-! ### Whole texts -/

theorem isHalfCode_of_isPair (h : IsPair p q) : isHalfCode p.code = true ∧ isHalfCode q.code = true := by
  rw [IsPair, isHighCode_iff, isLowCode_iff] at h
  rw [isHalfCode_iff, isHalfCode_iff]
  omega

theorem whole_cons : Whole (p :: ps) ↔ (∀ q ∈ ps.head?, ¬ IsPair p q) ∧ Whole ps := List.isChain_cons

theorem whole_append : Whole (ps ++ qs) ↔
    Whole ps ∧ Whole qs ∧ ∀ p ∈ ps.getLast?, ∀ q ∈ qs.head?, ¬ IsPair p q :=
  List.isChain_append

theorem whole_of_not_half (h : ∀ p ∈ ps, ¬ isHalfCode p.code = true) : Whole ps := by
  induction ps with
  | nil => exact .nil
  | cons p rest ih =>
    rw [List.forall_mem_cons] at h
    exact whole_cons.2 ⟨fun q _ hpair => h.1 (isHalfCode_of_isPair hpair).1, ih h.2⟩

theorem not_isHalfCode_toNat (c : Char) : ¬ isHalfCode c.toNat = true := by
  rw [isHalfCode_iff]
  have hvalid := toNat_cases c
  omega

theorem whole_of_isPlain (h : IsPlain a) : Whole a := by
  refine whole_of_not_half fun p hp => ?_
  obtain ⟨c, hc, rfl⟩ := List.mem_map.1 hp
  have hplain := h c hc
  have hhalf : ¬ isHalf c = true := by
    rw [isHalf_iff]
    omega
  dsimp only
  rw [codeOf_of_not_half hhalf]
  exact not_isHalfCode_toNat c

/-- Letters that have a lower case and these lower cases stand on either side of the halves. -/
theorem caseRuns_bounds : ∀ r ∈ caseRuns, (r.last < 0xd800 ∨ 0xe000 ≤ r.first) ∧
    (r.last + r.offset < 0xd800 ∨ 0xe000 ≤ r.first + r.offset) ∧ r.last + r.offset < 0x110000 := by
  decide +kernel

/-- Lower case never turns a letter into a half, nor a half into a letter. -/
theorem lowerCode_cases (n : Nat) : lowerCode n = n ∨
    ¬ isHalfCode n = true ∧ ¬ isHalfCode (lowerCode n) = true ∧ lowerCode n < 0x110000 := by
  unfold lowerCode
  split
  · next r hr =>
    have hbounds := caseRuns_bounds r (List.mem_of_find?_eq_some hr)
    have hcovers := List.find?_some hr
    simp only [CaseRun.covers, Bool.and_eq_true, decide_eq_true_eq] at hcovers
    rw [isHalfCode_iff, isHalfCode_iff]
    omega
  · exact .inl rfl

/-- A half has no case. -/
theorem lowerBetween_of_half (h : isHalfCode p.code = true) (before after : Points) :
    lowerBetween before p after = [p] := by
  have hcode : lowerCode p.code = p.code := (lowerCode_cases p.code).resolve_right fun hsmall => hsmall.1 h
  rw [isHalfCode_iff] at h
  have hsigma : (p.code == 0x3a3) = false := beq_false_of_ne (by omega)
  have hdot : (p.code == 0x130) = false := beq_false_of_ne (by omega)
  simp [lowerBetween, hsigma, hdot, hcode]

theorem lowerBetween_of_not_half (h : ¬ isHalfCode p.code = true) (before after : Points) :
    lowerBetween before p after ≠ [] ∧ ∀ q ∈ lowerBetween before p after, ¬ isHalfCode q.code = true := by
  have hchar (c : Char) : ¬ isHalfCode (Point.ofChar c).code = true := not_isHalfCode_toNat c
  unfold lowerBetween
  split
  · exact ⟨List.cons_ne_nil _ _, List.forall_mem_singleton.2 (hchar _)⟩
  · split
    · exact ⟨List.cons_ne_nil _ _, List.forall_mem_cons.2 ⟨hchar _, List.forall_mem_singleton.2 (hchar _)⟩⟩
    · refine ⟨List.cons_ne_nil _ _, List.forall_mem_singleton.2 ?_⟩
      rcases lowerCode_cases p.code with hsame | ⟨_, hlower, hcode⟩
      · rwa [hsame, Point.ofCode_code]
      · rwa [Point.code_ofCode hcode]

/-- What follows a point makes a pair with it exactly if it does so in lower case. -/
theorem forall_head_lowerFrom (p : Point) (before ps : Points) :
    (∀ q ∈ (lowerFrom before ps).head?, ¬ IsPair p q) ↔ ∀ q ∈ ps.head?, ¬ IsPair p q := by
  cases ps with
  | nil => simp [lowerFrom]
  | cons q rest =>
    rw [lowerFrom]
    by_cases hq : isHalfCode q.code = true
    · rw [lowerBetween_of_half hq]
      rfl
    · obtain ⟨hne, hall⟩ := lowerBetween_of_not_half hq before rest
      obtain ⟨first, more, hfirst⟩ := List.exists_cons_of_ne_nil hne
      rw [hfirst] at hall ⊢
      refine iff_of_true ?_ ?_
      · rintro _ ⟨⟩ hpair
        exact hall first List.mem_cons_self (isHalfCode_of_isPair hpair).2
      · rintro _ ⟨⟩ hpair
        exact hq (isHalfCode_of_isPair hpair).2

/-- Lower case neither parts nor makes neighbours of two halves. -/
theorem whole_lowerFrom (ps before : Points) : Whole (lowerFrom before ps) ↔ Whole ps := by
  induction ps generalizing before with
  | nil => rfl
  | cons p rest ih =>
    rw [lowerFrom, whole_append, ih, whole_cons]
    by_cases hp : isHalfCode p.code = true
    · have hsingle : Whole [p] := .singleton p
      rw [lowerBetween_of_half hp, ← forall_head_lowerFrom p (p :: before) rest]
      simp [hsingle, and_comm]
    · have hall := (lowerBetween_of_not_half hp before rest).2
      have hfront : ∀ q ∈ rest.head?, ¬ IsPair p q := fun _ _ hpair => hp (isHalfCode_of_isPair hpair).1
      have hback : ∀ x ∈ (lowerBetween before p rest).getLast?, ∀ y ∈ (lowerFrom (p :: before) rest).head?,
          ¬ IsPair x y :=
        fun x hx _ _ hpair => hall x (List.mem_of_mem_getLast? hx) (isHalfCode_of_isPair hpair).1
      exact ⟨fun h => ⟨hfront, h.2.1⟩, fun h => ⟨whole_of_not_half hall, h.2, hback⟩⟩

/-- Lower case neither makes nor parts a pair. -/
theorem whole_lowerCase : Whole (lowerCase ps) ↔ Whole ps := whole_lowerFrom ps []

/-! ### Timestamps -/

theorem isPlain_padded (width n : Nat) : IsPlain (padded width n) := by
  intro c hc
  rw [padded, String.toList_ofList, List.mem_append] at hc
  rcases hc with hc | hc
  · rw [(List.mem_replicate.1 hc).2]
    decide
  · have hbounds := isDigit_iff.1 (Nat.isDigit_of_mem_toDigits (by decide) (by decide) hc)
    omega

end Text

theorem Moment.isPlain_offsetText (seconds : Int) : IsPlain (offsetText seconds) := by
  simp only [offsetText]
  split_ifs <;> simp +decide [isPlain_append, isPlain_padded]

theorem Moment.isPlain_text {separator : String} (h : IsPlain separator) (t : Moment) :
    IsPlain (t.text separator) := by
  have hoffset : IsPlain ((t.offset.map offsetText).getD "") := by
    cases t.offset with
    | none => decide
    | some seconds => exact isPlain_offsetText seconds
  simp only [Moment.text, Date.text]
  split <;> simp +decide [isPlain_append, isPlain_padded, h, hoffset]

/-! ### Lines -/

namespace Json

variable {fields : List (Points × Points)}

/-- A record of texts. -/
def ofFields (fields : List (Points × Points)) : Json := .record (fields.map fun (key, s) => (key, .text s))

theorem compactFields_texts (fields : List (Points × Points)) :
    compactFields (fields.map fun (key, s) => (key, .text s)) =
      .ok (fields.map fun (key, s) => quote key ++ ": " ++ quote s) := by
  induction fields with
  | nil => rfl
  | cons f rest ih =>
    rw [List.map_cons, compactFields, compact, ih]
    rfl

theorem joinFields_texts (fields : List (Points × Points)) :
    joinFields (fields.map fun (key, s) => (key, .text s)) =
      fields.map fun (key, s) => (joinHalves key, .text (joinHalves s)) := by
  induction fields with
  | nil => rfl
  | cons f rest ih =>
    rw [List.map_cons, joinFields, joinTexts, ih]
    rfl

theorem joinTexts_ofFields_eq_self_iff :
    (ofFields fields).joinTexts = ofFields fields ↔ ∀ f ∈ fields, Whole f.1 ∧ Whole f.2 := by
  simp only [ofFields, joinTexts, joinFields_texts, Json.record.injEq, List.map_inj_left, Prod.mk.injEq,
    Json.text.injEq, joinHalves_eq_self_iff]

end Json

namespace Log

theorem compact_jsonFields (timestamp name logger message : Points) (failure : Option Points) :
    (Json.ofFields (jsonFields timestamp name logger message failure)).compact =
      .ok (jsonLineOf timestamp name logger message failure) := by
  rw [Json.ofFields, Json.compact, Json.compactFields_texts]
  rfl

/-- Whatever the texts are, the line is printable ASCII, as every text is quoted. -/
theorem isPrintable_jsonLineOf (timestamp name logger message : Points) (failure : Option Points) :
    IsPrintable (jsonLineOf timestamp name logger message failure) := by
  have hfields : ∀ part ∈ (jsonFields timestamp name logger message failure).map fun (key, value) =>
      Json.quote key ++ ": " ++ Json.quote value, IsPrintable part := by
    intro part hpart
    obtain ⟨f, _, rfl⟩ := List.mem_map.1 hpart
    simp only [isPrintable_append]
    exact ⟨⟨Json.isPrintable_quote _, by decide⟩, Json.isPrintable_quote _⟩
  rw [jsonLineOf, isPrintable_append, isPrintable_append]
  exact ⟨⟨by decide, isPrintable_commas hfields⟩, by decide⟩

/-- The record that a JSON line of an event is written for. -/
def Event.record (e : Event) (timestamp : Points) : Json :=
  let always : List (Points × Json) :=
    [("timestamp", .text timestamp), ("level", .text (lowerCase e.levelName)), ("logger", .text e.logger),
      ("message", .text e.message)]
  .record (always ++ (e.failure.map fun text => (("exception" : Points), .text text)).toList)

variable {e : Event} {d : Draft} {stamp line : String} {microseconds : Int}

theorem Event.record_eq (e : Event) (timestamp : Points) : e.record timestamp =
    Json.ofFields (jsonFields timestamp e.levelName e.logger e.message e.failure) := by
  cases hfailure : e.failure <;> simp [record, Json.ofFields, jsonFields, hfailure]

theorem exists_timestamp_iff : (∃ stamp, timestamp microseconds = .ok stamp) ↔
    firstMicrosecond ≤ microseconds ∧ microseconds < endMicrosecond := by
  unfold timestamp
  dsimp only
  split_ifs with hyears <;> simpa using hyears

theorem whole_timestamp (h : timestamp microseconds = .ok stamp) : Whole stamp := by
  have hyears := exists_timestamp_iff.1 ⟨stamp, h⟩
  have htext : timestamp microseconds = .ok ((Moment.ofMicroseconds microseconds).text "T") :=
    if_pos (by simpa using hyears)
  rw [htext, Except.ok.injEq] at h
  rw [← h]
  exact whole_of_isPlain (Moment.isPlain_text (by decide) _)

theorem whole_timestampOf {created : Value} (h : timestampOf created = .ok stamp) : Whole stamp := by
  obtain ⟨microseconds, _, hstamp⟩ := bind_eq_ok_iff.1 h
  exact whole_timestamp hstamp

/-- A time has a timestamp if it falls into the years that a timestamp can give. -/
theorem exists_timestampOf_iff {created : Value} : (∃ stamp, timestampOf created = .ok stamp) ↔
    ∃ microseconds, microsecondsOf created = .ok microseconds ∧
      firstMicrosecond ≤ microseconds ∧ microseconds < endMicrosecond := by
  simp only [timestampOf, exists_ok_bind, exists_timestamp_iff]

/-- A draft has the line of the event that it is put together to. -/
theorem Draft.jsonLine_eq_ok_iff : d.jsonLine = .ok line ↔
    ∃ message, d.text = .ok message ∧ (d.event message).jsonLine = .ok line := by
  simp only [jsonLine, Event.jsonLine, bind_eq_ok_iff, pure, Except.pure, Except.ok.injEq]
  constructor
  · rintro ⟨stamp, hstamp, message, hmessage, hline⟩
    exact ⟨message, hmessage, stamp, hstamp, hline⟩
  · rintro ⟨message, hmessage, stamp, hstamp, hline⟩
    exact ⟨stamp, hstamp, message, hmessage, hline⟩

namespace Event

theorem jsonLine_eq_ok_iff : e.jsonLine = .ok line ↔
    ∃ stamp, timestampOf e.created = .ok stamp ∧ e.line stamp = line := by
  simp only [jsonLine, bind_eq_ok_iff, pure, Except.pure, Except.ok.injEq]

/-- A line can be written exactly where its time lies in the years that a timestamp has. -/
theorem exists_jsonLine_iff : (∃ line, e.jsonLine = .ok line) ↔
    ∃ microseconds, microsecondsOf e.created = .ok microseconds ∧
      firstMicrosecond ≤ microseconds ∧ microseconds < endMicrosecond := by
  rw [← exists_timestampOf_iff]
  simp only [jsonLine_eq_ok_iff]
  constructor
  · rintro ⟨_, stamp, hstamp, _⟩
    exact ⟨stamp, hstamp⟩
  · rintro ⟨stamp, hstamp⟩
    exact ⟨_, stamp, hstamp, rfl⟩

theorem read?_line (e : Event) (stamp : Points) :
    Json.read? (e.line stamp) = some (e.record stamp).joinTexts := by
  rw [record_eq]
  exact Json.read?_compact (compact_jsonFields _ _ _ _ _)

/-- Joining leaves a record alone exactly where no text of it holds two halves of a pair in a row. -/
theorem joinTexts_record_eq_self_iff {stamp : Points} (h : Whole stamp) :
    (e.record stamp).joinTexts = e.record stamp ↔
      Whole e.levelName ∧ Whole e.logger ∧ Whole e.message ∧ ∀ text ∈ e.failure, Whole text := by
  have hkeys : Whole "timestamp" ∧ Whole "level" ∧ Whole "logger" ∧ Whole "message" ∧ Whole "exception" := by
    decide
  rw [record_eq, Json.joinTexts_ofFields_eq_self_iff]
  cases hfailure : e.failure <;> simp [jsonFields, hkeys, h, whole_lowerCase]

/-- Of an event whose other texts are whole, the message alone comes back changed. -/
theorem joinTexts_record {stamp : Points} (hstamp : Whole stamp) (hlevel : Whole e.levelName)
    (hlogger : Whole e.logger) (hfailure : ∀ text ∈ e.failure, Whole text) :
    (e.record stamp).joinTexts = ({ e with message := joinHalves e.message } : Event).record stamp := by
  have hsame {text : Points} (h : Whole text) : joinHalves text = text := joinHalves_eq_self_iff.2 h
  have hkeys : Whole "timestamp" ∧ Whole "level" ∧ Whole "logger" ∧ Whole "message" ∧ Whole "exception" := by
    decide
  cases htext : e.failure with
  | none =>
    simp [record, Json.joinTexts, Json.joinFields, htext, hsame hstamp, hsame (whole_lowerCase.2 hlevel),
      hsame hlogger, hsame hkeys.1, hsame hkeys.2.1, hsame hkeys.2.2.1, hsame hkeys.2.2.2.1]
  | some text =>
    rw [htext] at hfailure
    simp [record, Json.joinTexts, Json.joinFields, htext, hsame hstamp, hsame (whole_lowerCase.2 hlevel),
      hsame hlogger, hsame hkeys.1, hsame hkeys.2.1, hsame hkeys.2.2.1, hsame hkeys.2.2.2.1,
      hsame hkeys.2.2.2.2, hsame (hfailure text rfl)]

/-- JSON lines lose nothing but the halves of pairs. An event has a line if its time falls into the years of
a timestamp. The line is printable ASCII, and it is read as a record of the time, the lower-case name of the
level, the logger, the message and the error, with the halves of each pair joined: these are the texts of the
event exactly if none of them has the halves of a pair next to each other. -/
theorem jsonLine_lossless (e : Event) :
    ((∃ line, e.jsonLine = .ok line) ↔
      ∃ microseconds, microsecondsOf e.created = .ok microseconds ∧
        firstMicrosecond ≤ microseconds ∧ microseconds < endMicrosecond) ∧
    ∀ line, e.jsonLine = .ok line → IsPrintable line ∧
      ∃ stamp, timestampOf e.created = .ok stamp ∧
        Json.read? line = some (e.record stamp).joinTexts ∧
        (Json.read? line = some (e.record stamp) ↔
          Whole e.levelName ∧ Whole e.logger ∧ Whole e.message ∧ ∀ text ∈ e.failure, Whole text) := by
  refine ⟨exists_jsonLine_iff, fun line hline => ?_⟩
  obtain ⟨stamp, hstamp, rfl⟩ := jsonLine_eq_ok_iff.1 hline
  have hread := read?_line e stamp
  refine ⟨isPrintable_jsonLineOf _ _ _ _ _, stamp, hstamp, hread, ?_⟩
  rw [hread, Option.some.injEq, joinTexts_record_eq_self_iff (whole_timestampOf hstamp)]

/-- A warning whose message is put together from the two halves of a pair. -/
def halves : Draft :=
  ⟨"WARNING", "cryptoconf.x", "%s%s",
    [.text (String.ofList [ofCode 0xd83d]), .text (String.ofList [ofCode 0xde00])], .int 0, none⟩

/-- Its line is read as a record whose message is the one point of the pair. -/
theorem jsonLine_halves : ∃ message line, halves.text = .ok message ∧ halves.jsonLine = .ok line ∧
    (message : Points) = [.ofCode 0xd83d, .ofCode 0xde00] ∧
    Json.read? line = some ((halves.event "😀").record "1970-01-01T00:00:00+00:00") ∧
    Json.read? line ≠ some ((halves.event message).record "1970-01-01T00:00:00+00:00") := by
  let message := String.ofList [ofCode 0xd83d, ofCode 0xde00]
  let e := halves.event message
  let stamp := "1970-01-01T00:00:00+00:00"
  have hstamp : timestampOf e.created = .ok stamp := rfl
  have hmessage : halves.text = .ok message := rfl
  have hline : e.jsonLine = .ok (e.line stamp) := jsonLine_eq_ok_iff.2 ⟨stamp, hstamp, rfl⟩
  have hread := read?_line e stamp
  have hpair : joinHalves message = "😀" := by decide
  refine ⟨message, _, hmessage, Draft.jsonLine_eq_ok_iff.2 ⟨message, hmessage, hline⟩, by decide, ?_, ?_⟩
  · rw [hread, joinTexts_record (by decide) (by decide) (by decide) (by rintro _ ⟨⟩)]
    exact congrArg (fun text : Points => some (({ e with message := text } : Event).record stamp)) hpair
  · rw [hread, ne_eq, Option.some.injEq, joinTexts_record_eq_self_iff (whole_timestampOf hstamp)]
    decide

end Event
end Log
end FeatureCert
