import FeatureCert.Yaml.Timestamp

/-!
Kinds of YAML nodes: by the tag that is written, or, for a plain scalar, by its text. Texts are read by
the rules of YAML 1.1: yes and no are truth values, a leading zero marks an octal number, and colons
separate digits of base sixty.
-/
namespace FeatureCert.Yaml

open FeatureCert.Text FeatureCert.Numeral

inductive Kind where
  | null | bool | int | float | timestamp | binary | text
  | list | table | set | pairs
  /-- The mark of a key whose value is merged into its table. -/
  | merge
  /-- The mark of a table's default value. -/
  | default
  | unknown
  deriving DecidableEq, Repr

namespace Kind

def ofTag (tag : String) : Kind :=
  match tag with
  | "tag:yaml.org,2002:null" => .null
  | "tag:yaml.org,2002:bool" => .bool
  | "tag:yaml.org,2002:int" => .int
  | "tag:yaml.org,2002:float" => .float
  | "tag:yaml.org,2002:timestamp" => .timestamp
  | "tag:yaml.org,2002:binary" => .binary
  | "tag:yaml.org,2002:str" => .text
  | "tag:yaml.org,2002:seq" => .list
  | "tag:yaml.org,2002:map" => .table
  | "tag:yaml.org,2002:set" => .set
  | "tag:yaml.org,2002:omap" => .pairs
  | "tag:yaml.org,2002:pairs" => .pairs
  | "tag:yaml.org,2002:merge" => .merge
  | "tag:yaml.org,2002:value" => .default
  | _ => .unknown

/-- Kind of a node with a tag, or with none, where it is of a kind of its own. -/
def ofMark (tag : Option String) (own : Kind) : Kind :=
  match tag with
  | none => own
  | some "!" => own
  | some tag => .ofTag tag

end Kind

namespace Plain

def nulls : List String := ["~", "null", "Null", "NULL"]

def switches : List String :=
  ["yes", "Yes", "YES", "no", "No", "NO", "true", "True", "TRUE", "false", "False", "FALSE",
    "on", "On", "ON", "off", "Off", "OFF"]

/-- A digit below a base, or an underscore. -/
def isDigitOrLine (base : Nat) (c : Char) : Bool := c == '_' || (digitIn? base c).isSome

/-- One digit of base sixty, written with one or two decimal digits. -/
def isSixty : List Char → Bool
  | [d] => d.isDigit
  | [tens, d] => (digitIn? 6 tens).isSome && d.isDigit
  | _ => false

/-- Digits of base sixty with colons between them; `run` stands since the last colon. -/
def areSixties (run : List Char) : List Char → Bool
  | [] => isSixty run
  | c :: rest =>
    if c == ':' then isSixty run && areSixties [] rest else areSixties (run ++ [c]) rest

/-- Nothing, or digits of base sixty, each behind a colon. -/
def isSixties : List Char → Bool
  | [] => true
  | c :: rest => c == ':' && areSixties [] rest

/-- Whether a text starts with a digit. -/
def isGroup : List Char → Bool
  | c :: _ => c.isDigit
  | [] => false

def isInt (cs : List Char) : Bool :=
  match (splitSign cs).2 with
  | ['0'] => true
  | '0' :: 'b' :: rest => !rest.isEmpty && rest.all (isDigitOrLine 2)
  | '0' :: 'x' :: rest => !rest.isEmpty && rest.all (isDigitOrLine 16)
  | '0' :: rest => rest.all (isDigitOrLine 8)
  | cs => isGroup cs && isSixties (cs.dropWhile (isDigitOrLine 10))

def isExponent (cs : List Char) : Bool :=
  match cs with
  | [] => true
  | e :: sign :: d :: rest =>
    (e == 'e' || e == 'E') && (sign == '+' || sign == '-') && d.isDigit && rest.all Char.isDigit
  | _ => false

/-- Whether digits of base sixty stand before a point. -/
def isSixtiesPoint (cs : List Char) : Bool :=
  match splitFirst '.' cs with
  | (before, some after) =>
    let groups := before.dropWhile (isDigitOrLine 10)
    isGroup before && !groups.isEmpty && isSixties groups && after.all (isDigitOrLine 10)
  | (_, none) => false

def isFloat (cs : List Char) : Bool :=
  let unsigned := (splitSign cs).2
  let word := String.ofList unsigned
  if word == ".inf" || word == ".Inf" || word == ".INF" then true
  else
    let own := String.ofList cs
    if own == ".nan" || own == ".NaN" || own == ".NAN" then true
    else
      match cs with
      | '.' :: rest => isGroup rest && isExponent (rest.dropWhile (isDigitOrLine 10))
      | _ =>
        match unsigned.dropWhile (isDigitOrLine 10) with
        | '.' :: rest => isGroup unsigned && isExponent (rest.dropWhile (isDigitOrLine 10))
        | _ => isSixtiesPoint unsigned

end Plain

def dropLineEnd (cs : List Char) : List Char :=
  match cs.reverse with
  | '\n' :: c :: rest => (c :: rest).reverse
  | _ => cs

/-- Kind of a scalar whose text decides it. -/
def Kind.ofText (text : String) : Kind :=
  let cs := dropLineEnd text.toList
  let word := String.ofList cs
  if text.isEmpty || Plain.nulls.contains word then .null
  else if Plain.switches.contains word then .bool
  else if Plain.isInt cs then .int
  else if Plain.isFloat cs then .float
  else if (Timestamp.ofText? cs).any (·.isPlain) then .timestamp
  else if word == "<<" then .merge
  else if word == "=" then .default
  else if word == "!" || word == "&" || word == "*" then .unknown
  else .text

end FeatureCert.Yaml
