import DeviceHub.Decimal.Numeral
import DeviceHub.Url.Domain
import DeviceHub.Url.Percent

/-!
# Hosts

A host is a name or an address. Names that end in a number are addresses of version 4 and may be
written in fewer than four parts and in three bases; addresses of version 6 stand in brackets.
-/
namespace DeviceHub.Url

/-- Why a text is not a URL. -/
inductive Fault where
  | emptyHost
  | invalidDomain
  | invalidPort
  | invalidIpv4
  | invalidIpv6
  | invalidHostCharacter
  | relativeWithoutBase
  | relativeToOpaque
  deriving DecidableEq

def Fault.message : Fault → String
  | .emptyHost => "empty host"
  | .invalidDomain => "invalid international domain name"
  | .invalidPort => "invalid port number"
  | .invalidIpv4 => "invalid IPv4 address"
  | .invalidIpv6 => "invalid IPv6 address"
  | .invalidHostCharacter => "invalid domain character"
  | .relativeWithoutBase => "relative URL without a base"
  | .relativeToOpaque => "relative URL with a cannot-be-a-base base"

/-- A host. The empty name stands for no host at all. -/
inductive Host where
  | domain (name : String)
  | ipv4 (address : Nat)
  | ipv6 (pieces : List Nat)
  deriving DecidableEq

namespace Host

/-! ## Version 4 -/

/-- A number in a base. -/
def inBase (base : Nat) (cs : List Char) : Nat :=
  cs.foldl (fun n c => n * base + (hexValue? c).getD 0) 0

/-- One part of an address: hexadecimal behind `0x`, octal behind `0`, else decimal. -/
def ipv4Part? (cs : List Char) : Option Nat :=
  let read (base : Nat) (digits : List Char) : Option Nat :=
    if digits.all fun c => ((hexValue? c).map fun d => decide (d < base)).getD false then
      some (inBase base digits)
    else none
  match cs with
  | [] => none
  | '0' :: 'x' :: r => read 16 r
  | '0' :: 'X' :: r => read 16 r
  | '0' :: d :: r => read 8 (d :: r)
  | r => read 10 r

/-- Whether a name ends in a number and is therefore an address. -/
def endsInNumber (cs : List Char) : Bool :=
  let parts := (Text.pieces '.' cs).reverse
  let last := match parts with
    | [] :: p :: _ => some p
    | [] :: [] => none
    | p :: _ => some p
    | [] => none
  match last with
  | none => false
  | some p => (p ≠ [] && p.all Decimal.isDigit) || (ipv4Part? p).isSome

/-- The address that some parts make: every part a byte, but the last as many as are missing. -/
def ipv4OfParts? (parts : List Nat) : Option Nat :=
  match parts.reverse with
  | [] => none
  | last :: front =>
    if 4 < parts.length then none
    else if front.any fun n => 255 < n then none
    else if 1 <<< (8 * (4 - front.length)) ≤ last then none
    else some (front.reverse.zipIdx.foldl (fun n (p, i) => n + p <<< (8 * (3 - i))) last)

def ipv4? (cs : List Char) : Option Nat := do
  let pieces := Text.pieces '.' cs
  let pieces := if pieces.getLast? = some [] then pieces.dropLast else pieces
  let parts ← pieces.mapM ipv4Part?
  ipv4OfParts? parts

/-! ## Version 6 -/

/-- A byte in decimal without zeros in front. -/
def decimalByte? (cs : List Char) : Option Nat := do
  let n ← Decimal.readNat? cs
  if n ≤ 255 ∧ (cs.length = 1 ∨ cs.head? ≠ some '0') then some n else none

/-- Four bytes as the last two pieces. -/
def embeddedIpv4? (cs : List Char) : Option (List Nat) := do
  match ← (Text.pieces '.' cs).mapM decimalByte? with
  | [a, b, c, d] => some [a * 256 + b, c * 256 + d]
  | _ => none

def ipv6Piece? (cs : List Char) : Option Nat :=
  if 1 ≤ cs.length ∧ cs.length ≤ 4 ∧ cs.all fun c => (hexValue? c).isSome then some (inBase 16 cs)
  else none

/-- The pieces between colons; the last may be four bytes. -/
def ipv6Pieces? : List (List Char) → Option (List Nat)
  | [] => some []
  | [p] => if p.contains '.' then embeddedIpv4? p else (ipv6Piece? p).map fun n => [n]
  | p :: ps => do
    let n ← ipv6Piece? p
    let ns ← ipv6Pieces? ps
    some (n :: ns)

/-- The sides of the first double colon. -/
def cutDouble : List Char → Option (List Char × List Char)
  | ':' :: ':' :: r => some ([], r)
  | c :: r => (cutDouble r).map fun (a, b) => (c :: a, b)
  | [] => none

/-- One side of a double colon. -/
def ipv6Side? (cs : List Char) : Option (List Nat) :=
  if cs = [] then some [] else ipv6Pieces? (Text.pieces ':' cs)

def ipv6? (cs : List Char) : Option (List Nat) :=
  match cutDouble cs with
  | none => do
    let pieces ← ipv6Side? cs
    if pieces.length = 8 then some pieces else none
  | some (front, back) => do
    if front.contains '.' then none
    else
      let a ← ipv6Side? front
      let b ← ipv6Side? back
      if a.length + b.length ≤ 7 then
        some (a ++ List.replicate (8 - a.length - b.length) 0 ++ b)
      else none

/-- Start and length of the longest run of zeros from a position on, the first of several. -/
def longestZeros (i : Nat) (best : Nat × Nat) (run : Nat) : List Nat → Nat × Nat
  | [] => if best.2 < run then (i - run, run) else best
  | 0 :: r => longestZeros (i + 1) best (run + 1) r
  | _ :: r => longestZeros (i + 1) (if best.2 < run then (i - run, run) else best) 0 r

def hexText (n : Nat) : String := String.ofList (Nat.toDigits 16 n)

/-- Pieces in brackets, the longest run of two zeros or more left out. -/
def ipv6Text (pieces : List Nat) : String :=
  let (start, length) := longestZeros 0 (0, 0) 0 pieces
  let written (ps : List Nat) := String.intercalate ":" (ps.map hexText)
  if length < 2 then "[" ++ written pieces ++ "]"
  else "[" ++ written (pieces.take start) ++ "::" ++ written (pieces.drop (start + length)) ++ "]"

/-! ## Both, and names -/

def text : Host → String
  | .domain name => name
  | .ipv4 n =>
    String.intercalate "." ([n >>> 24, (n >>> 16) % 256, (n >>> 8) % 256, n % 256].map toString)
  | .ipv6 pieces => ipv6Text pieces

/-- The host in brackets. -/
def bracketed? (cs : List Char) : Except Fault Host :=
  let inner := (cs.drop 1).dropLast
  if cs.length < 2 ∨ cs.getLast? ≠ some ']' then .error .invalidIpv6
  else match ipv6? inner with
    | some pieces => .ok (.ipv6 pieces)
    | none => .error .invalidIpv6

/-- The host of a scheme that knows about the network. -/
def parse (cs : List Char) : Except Fault Host :=
  if cs.head? = some '[' then bracketed? cs
  else match Domain.toAscii? (percentDecode cs) with
    | none => .error .invalidDomain
    | some name =>
      if name = [] then .error .emptyHost
      else if endsInNumber name then
        match ipv4? name with
        | some n => .ok (.ipv4 n)
        | none => .error .invalidIpv4
      else .ok (.domain (String.ofList name))

/-- The characters that may not stand in the host of any other scheme. -/
def isForbidden (c : Char) : Bool := c.toNat = 0 || "\t\n\r #/:<>?@[\\]^|".toList.contains c

/-- The host of any other scheme. -/
def parseOpaque (cs : List Char) : Except Fault Host :=
  if cs.head? = some '[' then bracketed? cs
  else if cs.any isForbidden then .error .invalidHostCharacter
  else .ok (.domain (String.ofList (encodeWith controls cs)))

end Host

end DeviceHub.Url
