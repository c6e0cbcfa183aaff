import FeatureCert.Command.Check
import FeatureCert.Proofs.Endings
import FeatureCert.Proofs.Selected
import FeatureCert.Proofs.Variables

/-!
Precedence of the sources of a check. Each source is read on its own; what is turned off beats what is
defined, this the variables, these the file and this the header, and within a source the last mention counts.
-/
namespace FeatureCert

namespace Selection

variable {α : Type} {stronger weaker : List (String × α)} {name : String} {item : α}

def Mentions (source : List (String × α)) (name : String) : Prop := name ∈ source.map (·.1)

theorem IsLastPair.append (weaker : List (String × α)) (h : IsLastPair stronger name item) :
    IsLastPair (weaker ++ stronger) name item := by
  obtain ⟨before, after, rfl, hafter⟩ := h
  exact ⟨weaker ++ before, after, by simp, hafter⟩

theorem IsLastPair.append_of_not_mentions (h : IsLastPair weaker name item)
    (hstronger : ¬ Mentions stronger name) : IsLastPair (weaker ++ stronger) name item := by
  obtain ⟨before, after, rfl, hafter⟩ := h
  refine ⟨before, after ++ stronger, by simp, List.forall_mem_append.2 ⟨hafter, ?_⟩⟩
  intro p hp hname
  exact hstronger (hname ▸ List.mem_map_of_mem hp)

/-- The last pair of a name is that of the stronger source, if it mentions the name. -/
theorem isLastPair_append_iff :
    IsLastPair (weaker ++ stronger) name item ↔
      IsLastPair stronger name item ∨ ¬ Mentions stronger name ∧ IsLastPair weaker name item := by
  constructor
  · intro h
    by_cases hmentions : Mentions stronger name
    · obtain ⟨other, hother⟩ := exists_isLastPair hmentions
      cases h.eq (hother.append weaker)
      exact .inl hother
    · have hweaker : Mentions weaker name := by
        have hmem := List.mem_map_of_mem (f := (·.1)) h.mem
        rw [List.map_append, List.mem_append] at hmem
        exact hmem.resolve_right hmentions
      obtain ⟨other, hother⟩ := exists_isLastPair hweaker
      cases h.eq (hother.append_of_not_mentions hmentions)
      exact .inr ⟨hmentions, hother⟩
  · rintro (h | ⟨hmentions, h⟩)
    · exact h.append weaker
    · exact h.append_of_not_mentions hmentions

/-- The pairs are those of the variables whose keys extend the lead, in the order of keys. -/
def InKeyOrder (lead : String) (bindings : List (String × String)) (pairs : List (String × Value)) :
    Prop :=
  ∃ sorted : List (String × String), sorted.Perm bindings ∧
    sorted.Pairwise (fun a b => ¬ Text.codes b.1 < Text.codes a.1) ∧
    List.Forall₂ (fun b p => parseName (b.1.toList.drop lead.length) b.1 = .ok p.1 ∧
        parseValue b.2 = .ok p.2)
      (sorted.filter fun b => lead.toList.isPrefixOf b.1.toList && lead.length < b.1.length) pairs

theorem inKeyOrder_fromEnvironment {lead : String} {bindings : List (String × String)}
    {pairs : List (String × Value)} (h : fromEnvironment lead bindings = .ok pairs) :
    InKeyOrder lead bindings pairs :=
  ⟨byKey bindings, List.mergeSort_perm bindings _, pairwise_byKey bindings, fromEnvironment_eq_ok_iff.1 h⟩

theorem parseUndefine_off {text : String} {p : String × Value} (h : parseUndefine text = .ok p) :
    p.2 = .bool false := by
  obtain ⟨name, _, hp⟩ := bind_eq_ok_iff.1 h
  cases hp
  rfl

theorem result_headerPairs (lead text : String) :
    (headerPairs lead text).result = (fromHeader lead text).mapError .badLiteral := by
  unfold headerPairs
  cases fromHeader lead text <;> rfl

theorem result_headerFilePairs (files : Files) (lead : String) (path : Path) :
    (headerFilePairs files lead path).result =
      headerText files path >>= fun text => (fromHeader lead text).mapError .badLiteral := by
  unfold headerFilePairs
  cases headerText files path with
  | error failure => rfl
  | ok text => exact result_headerPairs lead text

theorem result_headerFilePairs_eq_ok_iff {files : Files} {lead : String} {path : Path}
    {pairs : List (String × Value)} :
    (headerFilePairs files lead path).result = .ok pairs ↔
      ∃ text, headerText files path = .ok text ∧ fromHeader lead text = .ok pairs := by
  rw [result_headerFilePairs, bind_eq_ok_iff]
  simp only [mapError_eq_ok_iff]

end Selection

namespace Command.Check

open FeatureCert.Document FeatureCert.Selection

variable {context : Context} {line : Line} {header file environment on off : Source}

/-- What is read for a source from what names it; a source that nothing names assigns nothing. -/
def ReadFrom (named : Option κ) (R : κ → Source → Prop) (source : Source) : Prop :=
  match named with
  | some a => R a source
  | none => source = []

/-- Assignments that a check reads from the sources that its line names, each without a fault. -/
structure Reads (context : Context) (line : Line) (header file environment on off : Source) :
    Prop where
  header : ReadFrom (line.path? "--header")
    (fun path pairs => ∃ text, headerText context.files path = .ok text ∧
      fromHeader context.settings.headerLead text = .ok pairs) header
  file : ReadFrom line.operands.head?
    (fun path pairs => ∃ document, SelectionFile context.files path document ∧ pairs = document.pairs) file
  environment : ReadFrom (if line.has "--no-env" then none else some context)
    (fun c pairs => fromEnvironment c.settings.environmentLead c.environment.bindings = .ok pairs)
    environment
  on : List.Forall₂ (fun text p => parseDefine text = .ok p) (line.all "-D") on
  off : List.Forall₂ (fun text p => parseUndefine text = .ok p) (line.all "-U") off

def used (context : Context) (line : Line) (header file environment on off : Source) : List Source :=
  (line.path? "--header").toList.map (fun _ => header) ++
    line.operands.head?.toList.map (fun _ => file) ++
    (if line.has "--no-env" then none else some context).toList.map (fun _ => environment) ++ [on, off]

theorem yields_header (context : Context) (path : Path) :
    (Check.header context path).Yields fun pairs =>
      ∃ text, headerText context.files path = .ok text ∧
        fromHeader context.settings.headerLead text = .ok pairs :=
  (Run.yields_expect _).congr fun _ => result_headerFilePairs_eq_ok_iff

/-- A check reads its selection file from an empty shelf, so that it is the file as it stands. -/
theorem yields_selectionFile (context : Context) (path : String) :
    (selectionFile context (.ofText path)).Yields fun pairs =>
      ∃ document, SelectionFile context.files path document ∧ pairs = document.pairs := by
  refine (Run.Yields.logged_bind (R := fun p pairs => p.1.document.pairs = pairs) ?_ ?_).congr ?_
  · exact fun p => Run.yields_pure p.1.document.pairs
  · intro e
    dsimp only
    split
    · exact (Run.comes_reject _ _).yields_error (by simp)
    · exact (Run.comes_reject _ _).yields_error (by simp)
    · exact (Run.comes_throw _).yields_error (by simp)
  · intro pairs
    simp only [Prod.exists, ← holds_selectionKind_iff, Holds.iff_load]
    constructor
    · rintro ⟨loaded, shelf, hload, rfl⟩
      exact ⟨_, ⟨loaded, shelf, hload, rfl⟩, rfl⟩
    · rintro ⟨_, ⟨loaded, shelf, hload, rfl⟩, rfl⟩
      exact ⟨loaded, shelf, hload, rfl⟩

/-- A variable that is refused ends the check. -/
theorem yields_environment (context : Context) :
    (Check.environment context).Yields fun pairs =>
      fromEnvironment context.settings.environmentLead context.environment.bindings = .ok pairs := by
  unfold Check.environment
  cases fromEnvironment context.settings.environmentLead context.environment.bindings with
  | ok pairs => exact (Run.yields_pure pairs).congr (by simp)
  | error fault => exact ((Run.comes_reject _ 1).yields_error (by simp)).congr (by simp)

/-- The values of an option are read in order, and the first that is refused ends the check. -/
theorem yields_definitions (option : String) (read : String → Except TextFault (String × Value))
    (values : List String) :
    (definitions option read values).Yields fun pairs =>
      List.Forall₂ (fun text p => read text = .ok p) values pairs := by
  unfold definitions
  simp only [← mapM_eq_ok_iff]
  cases values.mapM read with
  | ok pairs => exact (Run.yields_pure pairs).congr (by simp)
  | error fault => exact ((Run.comes_misuse _ _).yields_error (by simp)).congr (by simp)

/-- The source that is read for what names it, if anything does. -/
def optional (named : Option κ) (read : κ → Run Source) : Run (List Source) :=
  match named with
  | some a => do return [← read a]
  | none => return []

theorem yields_optional {named : Option κ} {read : κ → Run Source} {R : κ → Source → Prop}
    (h : ∀ a, (read a).Yields (R a)) :
    (optional named read).Yields fun ss => ∃ source,
      ReadFrom named R source ∧ named.toList.map (fun _ => source) = ss := by
  cases named with
  | none => exact (Run.yields_pure []).congr (by simp [ReadFrom])
  | some a => exact (h a).map

/-- The sources that may be missing are read in one way. -/
theorem sources_eq (context : Context) (line : Line) :
    Check.sources context line = do
      let fromHeader ← optional (line.path? "--header") (Check.header context)
      let fromFile ← optional line.operands.head? fun path => selectionFile context (.ofText path)
      let fromVariables ← optional (if line.has "--no-env" then none else some context)
        Check.environment
      let on ← definitions "-D" parseDefine (line.all "-D")
      let off ← definitions "-U" parseUndefine (line.all "-U")
      return fromHeader ++ fromFile ++ fromVariables ++ [on, off] := by
  unfold Check.sources
  cases line.path? "--header" <;> cases line.operands.head? <;> cases line.has "--no-env" <;>
    simp [optional]

/-- A check reads its sources one by one, and goes on only where all of them are read. -/
theorem yields_sources (context : Context) (line : Line) :
    (Check.sources context line).Yields fun ss => ∃ header file environment on off,
      Reads context line header file environment on off ∧
        used context line header file environment on off = ss := by
  rw [sources_eq]
  refine (Run.Yields.bind (yields_optional (yields_header context)) fun _ _ =>
    Run.Yields.bind (yields_optional (yields_selectionFile context))
      fun _ _ => Run.Yields.bind (yields_optional yields_environment) fun _ _ =>
        Run.Yields.bind (yields_definitions "-D" parseDefine _) fun _ _ =>
          (yields_definitions "-U" parseUndefine _).map).congr ?_
  intro ss
  constructor
  · rintro ⟨_, ⟨header, hheader, rfl⟩, _, ⟨file, hfile, rfl⟩, _, ⟨environment, hread, rfl⟩, on, hon,
      off, hoff, rfl⟩
    exact ⟨header, file, environment, on, off, ⟨hheader, hfile, hread, hon, hoff⟩, rfl⟩
  · rintro ⟨header, file, environment, on, off, h, rfl⟩
    exact ⟨_, ⟨header, h.header, rfl⟩, _, ⟨file, h.file, rfl⟩, _, ⟨environment, h.environment, rfl⟩, on,
      h.on, off, h.off, rfl⟩

theorem ReadFrom.flatten {named : Option κ} {R : κ → Source → Prop} {source : Source}
    (h : ReadFrom named R source) : (named.toList.map fun _ => source).flatten = source := by
  cases named with
  | some a => simp
  | none => simp [show source = [] from h]

theorem Reads.flatten_used (h : Reads context line header file environment on off) :
    (used context line header file environment on off).flatten =
      header ++ file ++ environment ++ on ++ off := by
  simp only [used, List.flatten_append, h.header.flatten, h.file.flatten, h.environment.flatten]
  simp

theorem Reads.merge_used (h : Reads context line header file environment on off) :
    merge (used context line header file environment on off) =
      merge [header, file, environment, on, off] := by
  rw [merge, merge, h.flatten_used]
  simp

/-- What the five sources decide together: a name that is turned off is off, and any other has its last
value in the strongest source that mentions it. -/
structure Prefers (header file environment on off pairs : Source) : Prop where
  once : (pairs.map (·.1)).Nodup
  mentioned : ∀ name, Mentions pairs name ↔ Mentions header name ∨ Mentions file name ∨
    Mentions environment name ∨ Mentions on name ∨ Mentions off name
  value : ∀ name v, (name, v) ∈ pairs ↔
    Mentions off name ∧ v = .bool false ∨
    ¬ Mentions off name ∧ (IsLastPair on name v ∨
      ¬ Mentions on name ∧ (IsLastPair environment name v ∨
        ¬ Mentions environment name ∧ (IsLastPair file name v ∨
          ¬ Mentions file name ∧ IsLastPair header name v)))
  order : (pairs.map (·.1)).Pairwise fun a b =>
    let names := (header ++ file ++ environment ++ on ++ off).map (·.1)
    names.idxOf a < names.idxOf b

/-- What is turned off has one value. -/
theorem isLastPair_off_iff (h : ∀ p ∈ off, p.2 = .bool false) {name : String} {v : Value} :
    IsLastPair off name v ↔ Mentions off name ∧ v = .bool false := by
  constructor
  · intro hlast
    exact ⟨List.mem_map_of_mem (f := (·.1)) hlast.mem, h _ hlast.mem⟩
  · rintro ⟨hmentions, rfl⟩
    obtain ⟨v, hlast⟩ := exists_isLastPair hmentions
    have hv : v = .bool false := h _ hlast.mem
    rwa [hv] at hlast

/-- Sources are appended with the strongest at the end, where the last value of a name counts. -/
theorem prefers_collect (h : ∀ p ∈ off, p.2 = .bool false) :
    Prefers header file environment on off
      (collect (header ++ file ++ environment ++ on ++ off)) where
  once := nodup_names_collect _
  mentioned name := by
    rw [Mentions, mem_names_collect]
    simp [Mentions]
  value name v := by
    rw [mem_collect_iff, isLastPair_append_iff, isLastPair_append_iff, isLastPair_append_iff,
      isLastPair_append_iff, isLastPair_off_iff h]
  order := pairwise_names_collect _

/-- The selection that a check judges names what its sources mention, once each and in the order of first
mention, with the value of the strongest of them. -/
theorem prefers_of_sources {console : Console} {ss : List Source}
    (h : ((Check.sources context line).outcome console).1 = .ok ss) :
    ∃ header file environment on off, Reads context line header file environment on off ∧
      (line.has "--no-env" = false → InKeyOrder context.settings.environmentLead
        context.environment.bindings environment) ∧
      ∃ pairs, merge ss = pairs.map Entry.ofPair ∧ Prefers header file environment on off pairs := by
  obtain ⟨r, hcomes, hr, _⟩ := yields_sources context line
  rw [(hcomes console).1] at h
  obtain ⟨header, file, environment, on, off, hreads, rfl⟩ := (hr ss).1 h
  refine ⟨header, file, environment, on, off, hreads, fun hno => ?_, _, rfl, ?_⟩
  · have hread := hreads.environment
    rw [hno] at hread
    exact inKeyOrder_fromEnvironment hread
  · rw [hreads.flatten_used]
    apply prefers_collect
    intro p hp
    obtain ⟨text, _, hparse⟩ := exists_of_mem_forall₂ hreads.off hp
    exact parseUndefine_off hparse

def asciiOctets (text : String) : List UInt8 := text.toList.map fun c => UInt8.ofNat c.toNat

/-- Two variables that select and one that does not, a header, and a selection file of either form. -/
def sampleContext : Context where
  environment := { bindings := [("CRYPTOCONF_SET_DES", "1"), ("CRYPTOCONF_SET_RNG", "off"),
    ("PATH", "/bin")] }
  files := { base := [], entries := [
    (["c.h"], .file (asciiOctets "#define MBEDCRYPTO_AES\n")),
    (["table.yaml"], .file (asciiOctets
      "\x7b? selections : \x7b? AES : true, ? ROUNDS : 2, ? AES : false\x7d\x7d")),
    (["items.yaml"], .file (asciiOctets
      "\x7b? selections : [\x7b? AES : true\x7d, \x7b? ROUNDS : 2\x7d, \x7b? AES : false\x7d]\x7d"))] }
  settings := {}

/-- A line that turns a name off before it defines it, with a selection file. -/
def sampleLine (path : String) : Line where
  given := [⟨"-U", "DES"⟩, ⟨"--header", "c.h"⟩, ⟨"-D", "ROUNDS=6"⟩, ⟨"-D", "DES"⟩]
  operands := [path]

/-- What the table of the sample assigns. -/
def tabled : Source := [("AES", .bool false), ("ROUNDS", .int 2)]

/-- What the tables of the sample's list assign, one by one. -/
def itemized : Source := [("AES", .bool true), ("ROUNDS", .int 2), ("AES", .bool false)]

/-- A switch or a number. -/
def plain? : Value → Option (Bool ⊕ Int)
  | .bool b => some (.inl b)
  | .int n => some (.inr n)
  | _ => none

theorem eq_of_plain? {v w : Value} (h : plain? v = plain? w) (hw : (plain? w).isSome) : v = w := by
  cases w <;> cases v <;> simp_all [plain?]

/-- Switches and numbers can be compared, which values in general cannot. -/
theorem eq_of_map_plain? {pairs known : Source}
    (h : pairs.map (fun p => (p.1, plain? p.2)) = known.map fun p => (p.1, plain? p.2))
    (hknown : ∀ p ∈ known, (plain? p.2).isSome) : pairs = known := by
  induction known generalizing pairs with
  | nil => exact List.map_eq_nil_iff.1 h
  | cons q rest ih =>
    obtain ⟨p, more, rfl, hp, hmore⟩ := List.map_eq_cons_iff.1 h
    rw [List.forall_mem_cons] at hknown
    rw [Prod.mk.injEq] at hp
    rw [ih hmore hknown.2, Prod.ext hp.1 (eq_of_plain? hp.2 hknown.1)]

/-- What a selection file assigns. -/
def assigned? (files : Files) (path : String) : Option Source :=
  (Shelf.load selectionKind files {} (.ofText path)).result.toOption.map (·.1.document.pairs)

theorem exists_selectionFile {files : Files} {path : String} {known : Source}
    (h : (assigned? files path).map (·.map fun p => (p.1, plain? p.2)) =
      some (known.map fun p => (p.1, plain? p.2)))
    (hknown : ∀ p ∈ known, (plain? p.2).isSome) :
    ∃ document, SelectionFile files path document ∧ known = document.pairs := by
  obtain ⟨pairs, hpairs, hplain⟩ := Option.map_eq_some_iff.1 h
  obtain rfl := eq_of_map_plain? hplain hknown
  simp only [← holds_selectionKind_iff, Holds.iff_load]
  rw [assigned?] at hpairs
  cases hload : (Shelf.load selectionKind files {} (.ofText path)).result with
  | error e => rw [hload] at hpairs; cases hpairs
  | ok found =>
    rw [hload] at hpairs
    cases hpairs
    exact ⟨_, ⟨found.1, found.2, rfl, rfl⟩, rfl⟩

theorem reads_sample {path : String} {file : Source}
    (hfile : ∃ document, SelectionFile sampleContext.files path document ∧ file = document.pairs) :
    Reads sampleContext (sampleLine path) [("AES", .bool true)] file
      [("DES", .int 1), ("RNG", .bool false)] [("ROUNDS", .int 6), ("DES", .bool true)]
      [("DES", .bool false)] where
  header := by
    have hname : (Path.ofText "c.h").text = "c.h" := rfl
    have hseek : sampleContext.files.seek (Path.ofText "c.h").text =
        .ok (some (.file (asciiOctets "#define MBEDCRYPTO_AES\n"))) :=
      Files.seek_of_relative rfl rfl (by simp [hname]) (by decide)
    have htext : headerText sampleContext.files (.ofText "c.h") = .ok "#define MBEDCRYPTO_AES\n" := by
      rw [headerText, hseek]
      rfl
    exact ⟨_, htext, rfl⟩
  file := hfile
  environment := by
    have hsorted : byKey sampleContext.environment.bindings = sampleContext.environment.bindings :=
      byKey_of_pairwise (by decide)
    change fromEnvironment _ _ = _
    rw [fromEnvironment_eq, picked, hsorted]
    rfl
  on := .cons rfl (.cons rfl .nil)
  off := .cons rfl .nil

theorem sources_sample {path : String} {file : Source}
    (hfile : ∃ document, SelectionFile sampleContext.files path document ∧ file = document.pairs) :
    ((Check.sources sampleContext (sampleLine path)).outcome { timestamp := "" }).1 =
      .ok [[("AES", .bool true)], file, [("DES", .int 1), ("RNG", .bool false)],
        [("ROUNDS", .int 6), ("DES", .bool true)], [("DES", .bool false)]] := by
  obtain ⟨r, hcomes, hr, _⟩ := yields_sources sampleContext (sampleLine path)
  rw [(hcomes _).1]
  exact (hr _).2 ⟨_, _, _, _, _, reads_sample hfile, rfl⟩

/-- Turning off wins over a later definition and over a variable, a definition over the file, and the last
mention in the file, whichever its form, over the header. -/
theorem prefers_of_sample :
    let prefers (path : String) (ss : List Source) : Prop :=
      ((Check.sources sampleContext (sampleLine path)).outcome { timestamp := "" }).1 = .ok ss ∧
      ∃ header file environment on off,
        Reads sampleContext (sampleLine path) header file environment on off ∧
        ((sampleLine path).has "--no-env" = false → InKeyOrder sampleContext.settings.environmentLead
          sampleContext.environment.bindings environment) ∧
        ∃ pairs, merge ss = pairs.map Entry.ofPair ∧ Prefers header file environment on off pairs
    let sources (file : Source) : List Source :=
      [[("AES", .bool true)], file, [("DES", .int 1), ("RNG", .bool false)],
        [("ROUNDS", .int 6), ("DES", .bool true)], [("DES", .bool false)]]
    let merged : Source :=
      [("AES", .bool false), ("ROUNDS", .int 6), ("DES", .bool false), ("RNG", .bool false)]
    prefers "table.yaml" (sources tabled) ∧ merge (sources tabled) = merged.map Entry.ofPair ∧
      prefers "items.yaml" (sources itemized) ∧ merge (sources itemized) = merged.map Entry.ofPair := by
  intro prefers sources merged
  have htabled : ∃ document, SelectionFile sampleContext.files "table.yaml" document ∧
      tabled = document.pairs := exists_selectionFile (by decide +kernel) (by decide)
  have hitemized : ∃ document, SelectionFile sampleContext.files "items.yaml" document ∧
      itemized = document.pairs := exists_selectionFile (by decide +kernel) (by decide)
  have htable := sources_sample htabled
  have hitems := sources_sample hitemized
  exact ⟨⟨htable, prefers_of_sources htable⟩, rfl, ⟨hitems, prefers_of_sources hitems⟩, rfl⟩

end Command.Check
end FeatureCert
