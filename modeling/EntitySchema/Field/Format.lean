import EntitySchema.Json.Tree

set_option autoImplicit false

namespace EntitySchema.Format

def splitOn (separator : Char) : List Char → List (List Char)
  | [] => [[]]
  | c :: rest =>
    if c = separator then [] :: splitOn separator rest
    else match splitOn separator rest with
      | part :: parts => (c :: part) :: parts
      | [] => [[c]]

theorem splitOn_eq (separator : Char) (text : List Char) :
    splitOn separator text = text.splitOn separator := by
  simp only [List.splitOn]
  induction text with
  | nil => rfl
  | cons c rest ih =>
      rw [splitOn, ih, List.splitOnP_cons_eq_if_modifyHead]
      by_cases same : c = separator
      · rw [if_pos same, if_pos (beq_iff_eq.mpr same)]
      · rw [if_neg same, if_neg (mt beq_iff_eq.mp same)]
        cases shape : List.splitOnP (· == separator) rest with
        | nil => exact absurd shape (List.splitOnP_ne_nil _ rest)
        | cons part parts => rfl

def isLocalChar (c : Char) : Bool :=
  c.isAlphanum || ".!#$%&'*+/=?^_`\x7b|\x7d~-".toList.contains c

def isLabel (label : List Char) : Bool :=
  label.length ≤ 63 && label.all (fun c => c.isAlphanum || c = '-') &&
    (label.head?.any Char.isAlphanum) && (label.getLast?.any Char.isAlphanum)

def isEmail (text : String) : Bool :=
  let chars := text.toList
  let local' := chars.takeWhile isLocalChar
  let labels := splitOn '.' (chars.drop (local'.length + 1))
  text.utf8ByteSize ≤ 254 && !local'.isEmpty && chars[local'.length]? == some '@' &&
    2 ≤ labels.length && labels.all isLabel

def isSlugChar (c : Char) : Bool := c.isLower || c.isDigit

def isSlug (text : String) : Bool :=
  (splitOn '-' text.toList).all fun part => !part.isEmpty && part.all isSlugChar

def isHexDigit (c : Char) : Bool :=
  c.isDigit || ('a' ≤ c && c ≤ 'f') || ('A' ≤ c && c ≤ 'F')

def isHexadecimal (text : String) : Bool :=
  let digits := match text.toList with
    | '0' :: mark :: rest =>
      if ['x', 'X', 'h', 'H'].contains mark then rest else '0' :: mark :: rest
    | other => other
  !digits.isEmpty && digits.all isHexDigit

def isIdentifier : List Char → Bool
  | [] => false
  | c :: rest => (c.isAlpha || c = '_') && rest.all fun d => d.isAlphanum || d = '_'

def isFunctionName (text : String) : Bool := (splitOn '.' text.toList).all isIdentifier

def isOctet (text : List Char) : Bool :=
  match text with
  | ['0'] => true
  | '0' :: _ => false
  | _ => !text.isEmpty && text.length ≤ 3 && text.all Char.isDigit && digitsValue text ≤ 255

def isIpv4 (text : List Char) : Bool :=
  let octets := splitOn '.' text
  octets.length = 4 && octets.all isOctet

def isGroup (text : List Char) : Bool :=
  !text.isEmpty && text.length ≤ 4 && text.all isHexDigit

-- How many groups of 16 bits a run of an IPv6 address stands for; the last of them may be an IPv4
-- address, which stands for two, if `mixed`.
def groupCount? (mixed : Bool) (text : List Char) : Option Nat :=
  if text.isEmpty then some 0
  else
    let groups := splitOn ':' text
    let last := groups.getLast?.getD []
    if !groups.dropLast.all isGroup then none
    else if isGroup last then some groups.length
    else if mixed && isIpv4 last then some (groups.length + 1)
    else none

def splitPair (before : List Char) : List Char → Option (List Char × List Char)
  | ':' :: ':' :: rest => some (before.reverse, rest)
  | c :: rest => splitPair (c :: before) rest
  | [] => none

def isIpv6 (text : List Char) : Bool :=
  match splitPair [] text with
  | none => groupCount? true text == some 8
  | some (head, tail) =>
    match groupCount? false head, groupCount? true tail with
    | some front, some back => front + back ≤ 7
    | _, _ => false

def isIpAddress (text : String) : Bool := isIpv4 text.toList || isIpv6 text.toList

def base64Value? (c : Char) : Option Nat :=
  if c.isUpper then some (c.toNat - 'A'.toNat)
  else if c.isLower then some (c.toNat - 'a'.toNat + 26)
  else if c.isDigit then some (c.toNat - '0'.toNat + 52)
  else if c = '-' then some 62
  else if c = '_' then some 63
  else none

def base64Bytes? : List Nat → Option (List UInt8)
  | a :: b :: c :: d :: rest =>
    let n := a * 262144 + b * 4096 + c * 64 + d
    (base64Bytes? rest).map fun bytes =>
      UInt8.ofNat (n / 65536) :: UInt8.ofNat (n / 256) :: UInt8.ofNat n :: bytes
  | [a, b, c] =>
    let n := a * 4096 + b * 64 + c
    if n % 4 = 0 then some [UInt8.ofNat (n / 1024), UInt8.ofNat (n / 4)] else none
  | [a, b] => if b % 16 = 0 then some [UInt8.ofNat ((a * 64 + b) / 16)] else none
  | [_] => none
  | [] => some []

def decodeBase64? (text : List Char) : Option (List UInt8) :=
  let digits := (text.reverse.dropWhile (· = '=')).reverse
  (digits.mapM base64Value?).bind base64Bytes?

def isJsonObject (bytes : List UInt8) : Bool :=
  match (String.fromUTF8? ⟨bytes.toArray⟩).bind Json.read? with
  | some (.object _) => true
  | _ => false

def isToken (text : String) : Bool :=
  match splitOn '.' text.toList with
  | [header, payload, signature] =>
    !header.isEmpty && !payload.isEmpty && !signature.isEmpty &&
      (decodeBase64? header).any isJsonObject && (decodeBase64? payload).any isJsonObject &&
      (decodeBase64? signature).isSome
  | _ => false

end EntitySchema.Format
