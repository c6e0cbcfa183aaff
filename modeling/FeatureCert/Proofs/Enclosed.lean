import FeatureCert.Proofs.Toggled

/-!
Lines inside comments. A header is read line by line, and a line is taken for a comment only by the mark that
it begins with itself. So a definition inside a comment that opens on a line above and closes on a line below
counts like any other.
-/
namespace FeatureCert

open FeatureCert.Text FeatureCert.Numeral

namespace Text

variable {acc line above below rest : List Char} {c : Char}

theorem lines_go_cons (h : isLineEnd c = false) : lines.go acc (c :: rest) = lines.go (c :: acc) rest := by
  have hne : c ≠ '\r' := by
    rintro rfl
    cases h
  rw [lines.go.eq_3]
  · rw [if_neg (by simp [h])]
  · rintro _ rfl
    exact absurd rfl hne

/-- Characters that end no line are gathered, the last one first. -/
theorem lines_go_append (h : ∀ c ∈ line, isLineEnd c = false) :
    lines.go acc (line ++ rest) = lines.go (line.reverse ++ acc) rest := by
  induction line generalizing acc with
  | nil => rfl
  | cons c line ih =>
    rw [List.forall_mem_cons] at h
    rw [List.cons_append, lines_go_cons h.1, ih h.2]
    simp

/-- A line end closes the line before it, whatever stands there. -/
theorem lines_go_of_lineEnd (h : isLineEnd c = true) :
    lines.go acc (c :: rest) = acc.reverse :: (lines (c :: rest)).tail := by
  by_cases hpair : c = '\r' ∧ ∃ more, rest = '\n' :: more
  · obtain ⟨rfl, more, rfl⟩ := hpair
    rfl
  · have hsingle {acc : List Char} : lines.go acc (c :: rest) = acc.reverse :: lines.go [] rest := by
      rw [lines.go.eq_3, if_pos h]
      rintro more rfl rfl
      exact hpair ⟨rfl, more, rfl⟩
    rw [lines, hsingle, hsingle, List.tail_cons]

/-- A text whose last line is ended, if it has any. -/
def Ended (cs : List Char) : Prop := ∀ c ∈ cs.getLast?, isLineEnd c = true

theorem Ended.of_cons (h : Ended (c :: rest)) : Ended rest := by
  intro d hd
  apply h
  rw [List.getLast?_cons, Option.mem_def.1 hd]
  rfl

/-- Behind an ended line the walk starts anew, unless a line feed would join a carriage return. -/
theorem lines_go_append_of_ended (hended : Ended above) (hacc : above = [] → acc = [])
    (hrest : rest.head? ≠ some '\n') : lines.go acc (above ++ rest) = lines.go acc above ++ lines rest := by
  fun_induction lines.go acc above with
  | case1 acc hempty => simp [hacc rfl, lines]
  | case2 acc hempty => simp [hacc rfl] at hempty
  | case3 acc more ih =>
    change acc.reverse :: lines.go [] (more ++ rest) = _
    rw [ih hended.of_cons.of_cons (fun _ => rfl), List.cons_append]
  | case4 acc c more hpair hc ih =>
    rw [List.cons_append, lines.go.eq_3, if_pos hc, ih hended.of_cons (fun _ => rfl), List.cons_append]
    rintro tail rfl htail
    cases more with
    | nil => exact hrest (by simpa using congrArg List.head? htail)
    | cons d more =>
      cases htail
      exact hpair more rfl rfl
  | case5 acc c more hpair hc ih =>
    have hplain : isLineEnd c = false := by simpa using hc
    rw [List.cons_append, lines_go_cons hplain]
    refine ih hended.of_cons ?_
    rintro rfl
    exact absurd (hended c rfl) hc

/-- A line that stands between the ends of two others is a line of the text. -/
theorem lines_append (habove : Ended above) (hne : line ≠ []) (hline : ∀ c ∈ line, isLineEnd c = false)
    (hbelow : ∃ c ∈ below.head?, isLineEnd c = true) :
    lines (above ++ (line ++ below)) = lines above ++ line :: (lines below).tail := by
  obtain ⟨c, hc, hend⟩ := hbelow
  obtain ⟨more, rfl⟩ := List.head?_eq_some_iff.1 hc
  obtain ⟨first, rest, rfl⟩ := List.exists_cons_of_ne_nil hne
  have hhead : (first :: rest ++ c :: more).head? ≠ some '\n' := by
    rintro h
    cases h
    exact absurd (hline _ List.mem_cons_self) (by decide)
  rw [lines, lines_go_append_of_ended habove (fun _ => rfl) hhead, lines, lines_go_append hline,
    lines_go_of_lineEnd hend, List.append_nil, List.reverse_reverse]
  rfl

end Text

/-- Where a C text stands: in code, in a comment up to the end of its line, in a comment up to its closing
mark, or in a literal up to its quote. -/
inductive Place where
  | code
  | remark
  | comment
  | literal (quote : Char)
  deriving DecidableEq, Repr

/-- The place behind some more text. -/
def Place.behind : Place → List Char → Place
  | place, [] => place
  | .code, '/' :: '/' :: rest => behind .remark rest
  | .code, '/' :: '*' :: rest => behind .comment rest
  | .code, c :: rest => behind (if c = '"' ∨ c = '\'' then .literal c else .code) rest
  | .comment, '*' :: '/' :: rest => behind .code rest
  | .comment, _ :: rest => behind .comment rest
  -- a backslash takes a line end, or a quote, into what it stands in
  | .remark, '\\' :: _ :: rest => behind .remark rest
  | .remark, c :: rest => behind (if c = '\n' ∨ c = '\r' then .code else .remark) rest
  | .literal q, '\\' :: _ :: rest => behind (.literal q) rest
  | .literal q, c :: rest => behind (if c = q ∨ c = '\n' ∨ c = '\r' then .code else .literal q) rest

namespace Selection

/-- A line inside a comment of a C text: the comment opens on a line above and closes on a line below. -/
structure Enclosed (text : String) (above line below : List Char) : Prop where
  text_eq : text.toList = above ++ (line ++ below)
  above_ended : Ended above
  line_ne : line ≠ []
  line_whole : ∀ c ∈ line, isLineEnd c = false
  below_apart : ∃ c ∈ below.head?, isLineEnd c = true
  opened : Place.code.behind above = .comment
  unclosed : ¬ ['*', '/'] <:+: line
  closed : ['*', '/'] <:+: below

variable {lead text name : String} {pairs : List (String × Value)} {above line below : List Char}
  {t : Toggle} {v : Value}

/-- Every pair of a header comes from a toggle in one of its lines. -/
theorem exists_toggle_of_mem_fromHeader (h : fromHeader lead text = .ok pairs) (hmem : (name, v) ∈ pairs) :
    ∃ t ∈ toggles text, t.subject? lead = some name ∧ t.value = .ok v := by
  obtain ⟨results, hresults, h⟩ := bind_eq_ok_iff.1 h
  cases h
  obtain ⟨before, after, hsplit, _⟩ := mem_collect_iff.1 hmem
  have hread : (name, v) ∈ results.filterMap id := by
    rw [hsplit]
    exact List.mem_append_right _ List.mem_cons_self
  obtain ⟨p, hp, hpair⟩ := List.mem_filterMap.1 hread
  obtain ⟨t, ht, htoggle⟩ := exists_of_mem_mapM_ok hresults hp
  obtain ⟨w, hw, rfl⟩ := Toggle.pair?_ok htoggle
  obtain ⟨own, hown, hsame⟩ := Option.map_eq_some_iff.1 hpair
  cases hsame
  exact ⟨t, ht, hown, hw⟩

/-- Only a disabled definition gives off, since no replacement text gives the switch. -/
theorem Toggle.value_eq_false_iff (h : t.value = .ok v) : v = .bool false ↔ t.replacement = none := by
  unfold Toggle.value at h
  split at h
  · next hnone =>
    cases h
    exact iff_of_true rfl hnone
  · next rest hrest =>
    rw [hrest]
    refine iff_of_false ?_ (by simp)
    rcases replacementValue_cases h with ⟨rfl, _⟩ | ⟨_, n, rfl, _⟩ <;> simp

theorem Enclosed.toggles_eq (h : Enclosed text above line below) :
    toggles text = (lines above).filterMap toggle? ++
      ((toggle? line).toList ++ (lines below).tail.filterMap toggle?) := by
  rw [toggles, h.text_eq, lines_append h.above_ended h.line_ne h.line_whole h.below_apart,
    List.filterMap_append, List.filterMap_cons]
  cases toggle? line <;> rfl

/-- A name that only a line inside a comment toggles is left out or off in exactly the cases in which that line
would leave it so outside a comment: it defines another name or none, or begins with a comment mark itself. -/
theorem off_of_enclosed_iff (h : Enclosed text above line below) (hread : fromHeader lead text = .ok pairs)
    (hother : ∀ other ∈ lines above ++ lines below, ∀ t, toggle? other = some t →
      t.subject? lead ≠ some name) :
    (∀ v, (name, v) ∈ pairs → v = .bool false) ↔
      ∀ t, toggle? line = some t → t.subject? lead = some name → t.replacement = none := by
  have habove : ∀ t ∈ (lines above).filterMap toggle?, t.subject? lead ≠ some name := by
    intro t ht
    obtain ⟨other, hmem, htoggle⟩ := List.mem_filterMap.1 ht
    exact hother other (List.mem_append_left _ hmem) t htoggle
  have hbelow : ∀ t ∈ (lines below).tail.filterMap toggle?, t.subject? lead ≠ some name := by
    intro t ht
    obtain ⟨other, hmem, htoggle⟩ := List.mem_filterMap.1 ht
    exact hother other (List.mem_append_right _ (List.mem_of_mem_tail hmem)) t htoggle
  constructor
  · intro hoff t ht hname
    have hlast : IsLastToggle lead text name t := by
      refine ⟨(lines above).filterMap toggle?, (lines below).tail.filterMap toggle?, ?_, hname, hbelow⟩
      rw [h.toggles_eq, ht]
      rfl
    obtain ⟨v, hv, hmem⟩ := mem_fromHeader hread hlast
    exact (Toggle.value_eq_false_iff hv).1 (hoff v hmem)
  · intro hline v hv
    obtain ⟨t, ht, hname, hvalue⟩ := exists_toggle_of_mem_fromHeader hread hv
    rw [h.toggles_eq, List.mem_append, List.mem_append, Option.mem_toList] at ht
    rcases ht with ht | ht | ht
    · exact absurd hname (habove t ht)
    · exact (Toggle.value_eq_false_iff hvalue).2 (hline t ht hname)
    · exact absurd hname (hbelow t ht)

/-- A line in a comment of three lines. -/
def framed (line : String) : String := "/*\n" ++ line ++ "\n*/\n"

theorem enclosed_framed {line : String} (hne : line.toList ≠ [])
    (hwhole : line.toList.any isLineEnd = false) (hunclosed : ¬ ['*', '/'] <:+: line.toList) :
    Enclosed (framed line) "/*\n".toList line.toList "\n*/\n".toList where
  text_eq := by simp [framed]
  above_ended := by simp [Ended, isLineEnd]
  line_ne := hne
  line_whole := by simpa using hwhole
  below_apart := ⟨'\n', rfl, rfl⟩
  opened := rfl
  unclosed := hunclosed
  closed := ⟨['\n'], ['\n'], rfl⟩

theorem toggle?_of_mem_frame :
    ∀ other ∈ lines "/*\n".toList ++ lines "\n*/\n".toList, toggle? other = none := by
  decide +kernel

/-- Of three lines only the one in the middle toggles, though it stands in a comment. -/
theorem toggles_framed {line : String} (h : Enclosed (framed line) "/*\n".toList line.toList "\n*/\n".toList)
    (htoggle : toggle? line.toList = some t) : toggles (framed line) = [t] := by
  have habove : (lines "/*\n".toList).filterMap toggle? = [] :=
    List.filterMap_eq_nil_iff.2 fun other hmem =>
      toggle?_of_mem_frame other (List.mem_append_left _ hmem)
  have hbelow : (lines "\n*/\n".toList).tail.filterMap toggle? = [] :=
    List.filterMap_eq_nil_iff.2 fun other hmem =>
      toggle?_of_mem_frame other (List.mem_append_right _ (List.mem_of_mem_tail hmem))
  rw [h.toggles_eq, habove, hbelow, htoggle]
  rfl

/-- A line in such a comment is left off if it has a comment mark of its own. -/
theorem off_of_marked_line :
    Enclosed (framed "//#define MBEDCRYPTO_A") "/*\n".toList "//#define MBEDCRYPTO_A".toList
        "\n*/\n".toList ∧
      fromHeader defaultLead (framed "//#define MBEDCRYPTO_A") = .ok [("A", .bool false)] ∧
      ∀ v, ("A", v) ∈ [("A", Value.bool false)] → v = .bool false := by
  have henclosed : Enclosed (framed "//#define MBEDCRYPTO_A") "/*\n".toList
      "//#define MBEDCRYPTO_A".toList "\n*/\n".toList :=
    enclosed_framed (by decide +kernel) (by decide +kernel) (by decide +kernel)
  have htoggle : toggle? "//#define MBEDCRYPTO_A".toList = some ⟨"MBEDCRYPTO_A", none⟩ := by
    decide +kernel
  have hread : fromHeader defaultLead (framed "//#define MBEDCRYPTO_A") = .ok [("A", .bool false)] := by
    rw [fromHeader, toggles_framed henclosed htoggle]
    rfl
  refine ⟨henclosed, hread, (off_of_enclosed_iff henclosed hread ?_).2 ?_⟩
  · intro other hmem t ht
    rw [toggle?_of_mem_frame other hmem] at ht
    cases ht
  · intro t ht _
    rw [htoggle] at ht
    cases ht
    rfl

/-- Without one it is on, though a compiler never sees it. -/
theorem on_of_enclosed_line :
    Enclosed (framed "#define MBEDCRYPTO_A") "/*\n".toList "#define MBEDCRYPTO_A".toList "\n*/\n".toList ∧
      (∀ other ∈ lines "/*\n".toList ++ lines "\n*/\n".toList, toggle? other = none) ∧
      fromHeader defaultLead (framed "#define MBEDCRYPTO_A") = .ok [("A", .bool true)] := by
  have henclosed : Enclosed (framed "#define MBEDCRYPTO_A") "/*\n".toList
      "#define MBEDCRYPTO_A".toList "\n*/\n".toList :=
    enclosed_framed (by decide +kernel) (by decide +kernel) (by decide +kernel)
  have htoggle : toggle? "#define MBEDCRYPTO_A".toList = some ⟨"MBEDCRYPTO_A", some []⟩ := by
    decide +kernel
  refine ⟨henclosed, toggle?_of_mem_frame, ?_⟩
  rw [fromHeader, toggles_framed henclosed htoggle]
  rfl

end Selection
end FeatureCert
