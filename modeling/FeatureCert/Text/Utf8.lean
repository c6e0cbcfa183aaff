/-!
Text in UTF-8: its octets, and the text of octets, either strictly or with a replacement character for
each part that is no text.
-/
namespace FeatureCert.Text

def octetsOf (text : String) : List UInt8 := text.toUTF8.toList

/-- Text of octets, if they are text. -/
def textOf? (octets : List UInt8) : Option String := String.fromUTF8? ⟨octets.toArray⟩

/-- The walk over octets puts those that it passed in front of the rest. -/
theorem octets_loop (bs : ByteArray) (i : Nat) (passed : List UInt8) :
    ByteArray.toList.loop bs i passed = passed.reverse ++ bs.data.toList.drop i := by
  fun_induction ByteArray.toList.loop bs i passed with
  | case1 i passed hlt ih =>
    have hlength : i < bs.data.toList.length := by simpa using hlt
    have hget : bs.get! i = bs.data.toList[i] := getElem!_pos bs.data i hlt
    rw [ih, List.drop_eq_getElem_cons hlength, hget]
    simp
  | case2 i passed hge =>
    have hlength : bs.data.toList.length ≤ i := by simpa using hge
    simp [List.drop_eq_nil_of_le hlength]

/-- The text of a text's octets is the text. -/
@[simp] theorem textOf?_octetsOf (text : String) : textOf? (octetsOf text) = some text := by
  have hback : (octetsOf text).toArray = text.toUTF8.data := by
    rw [octetsOf, ByteArray.toList, octets_loop]
    simp
  rw [textOf?, hback, String.fromUTF8?]
  exact dif_pos text.isValidUTF8

/-- A character of which some octets are still to come, the next one within bounds. -/
structure Pending where
  code : Nat
  missing : Nat
  low : Nat
  high : Nat

/-- The character that a first octet begins. -/
def pending? (octet : Nat) : Option Pending :=
  if 0xc2 ≤ octet && octet ≤ 0xdf then some ⟨octet - 0xc0, 1, 0x80, 0xbf⟩
  else if octet == 0xe0 then some ⟨0, 2, 0xa0, 0xbf⟩
  else if octet == 0xed then some ⟨13, 2, 0x80, 0x9f⟩
  else if 0xe1 ≤ octet && octet ≤ 0xef then some ⟨octet - 0xe0, 2, 0x80, 0xbf⟩
  else if octet == 0xf0 then some ⟨0, 3, 0x90, 0xbf⟩
  else if octet == 0xf4 then some ⟨4, 3, 0x80, 0x8f⟩
  else if 0xf1 ≤ octet && octet ≤ 0xf3 then some ⟨octet - 0xf0, 3, 0x80, 0xbf⟩
  else none

def replacement : Char := '\ufffd'

/-- Takes an octet that begins a character. -/
def beginChar (octet : Nat) : List Char × Option Pending :=
  if octet < 0x80 then ([Char.ofNat octet], none)
  else
    match pending? octet with
    | some p => ([], some p)
    | none => ([replacement], none)

/-- Takes one octet: the characters that it ends, and the one that it leaves pending. -/
def takeOctet (pending : Option Pending) (octet : Nat) : List Char × Option Pending :=
  match pending with
  | none => beginChar octet
  | some p =>
    if p.low ≤ octet && octet ≤ p.high then
      let code := p.code * 64 + (octet - 0x80)
      if p.missing == 1 then ([Char.ofNat code], none)
      else ([], some ⟨code, p.missing - 1, 0x80, 0xbf⟩)
    else
      let (cs, p) := beginChar octet
      (replacement :: cs, p)

/-- Characters of octets, the longest start of a character that breaks off being replaced by one. -/
def decodeFrom (pending : Option Pending) : List UInt8 → List Char
  | [] => if pending.isSome then [replacement] else []
  | octet :: rest =>
    let (cs, p) := takeOctet pending octet.toNat
    cs ++ decodeFrom p rest

def decodeLossy (octets : List UInt8) : String := String.ofList (decodeFrom none octets)

end FeatureCert.Text
