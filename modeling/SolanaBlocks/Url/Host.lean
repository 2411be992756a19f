import SolanaBlocks.Url.Basic
import SolanaBlocks.Url.Domain

/-!
# Hosts

The host of an address is a domain, an address of four numbers, or an address of eight groups
between brackets. Where the scheme is not special, it is any text without separators.
-/

namespace SolanaBlocks.Url

/-- A number in some base. No digits at all make zero. -/
def number? (base : Nat) (cs : List Char) : Option Nat := do
  let digits ← cs.mapM Text.hexValue?
  if digits.all (· < base) then some (digits.foldl (fun n digit => base * n + digit) 0) else none

/-! ## Four numbers -/

/-- A number of an address: in base sixteen after `0x`, in base eight after `0`, else in base ten.
-/
def partValue? : List Char → Option Nat
  | [] => none
  | '0' :: 'x' :: cs | '0' :: 'X' :: cs => number? 16 cs
  | '0' :: c :: cs => number? 8 (c :: cs)
  | cs => number? 10 cs

/-- The parts of a domain, where a point may follow the last one. -/
def domainParts (domain : List Char) : List (List Char) :=
  match (Text.splitOn '.' domain).reverse with
  | [] :: part :: rest => (part :: rest).reverse
  | parts => parts.reverse

/-- Whether a domain has to be an address of four numbers. -/
def endsInNumber (domain : List Char) : Bool :=
  match (domainParts domain).getLast? with
  | none | some [] => false
  | some part =>
    part.all Char.isDigit ||
      match part with
      | '0' :: 'x' :: _ | '0' :: 'X' :: _ => (partValue? part).isSome
      | _ => false

/-- The address that some numbers stand for: each a byte, the last one filling up what is left. -/
def joinNumbers? : (places : Nat) → List Nat → Option Nat
  | _, [] => none
  | places, [last] => if last < Nat.pow 256 places then some last else none
  | places + 1, n :: rest =>
    if n < 256 then (joinNumbers? places rest).map (n * Nat.pow 256 places + ·) else none
  | 0, _ => none

/-- The written form of an address of four numbers. -/
def writeNumbers (n : Nat) : List Char :=
  ".".toList.intercalate
    ([n / 0x1000000, n / 0x10000 % 256, n / 256 % 256, n % 256].map (Nat.toDigits 10))

/-! ## Eight groups -/

/-- Four bytes at the end of an address of groups, as two groups. -/
def byteGroups? (cs : List Char) : Option (List Nat) := do
  let bytes ← (Text.splitOn '.' cs).mapM fun part =>
    if part.isEmpty || (1 < part.length && part.head? == some '0') then none
    else (number? 10 part).filter (· < 256)
  match bytes with
  | [a, b, c, d] => some [256 * a + b, 256 * c + d]
  | _ => none

/-- Groups with colons between them. -/
def groups? (cs : List Char) : Option (List Nat) :=
  if cs.isEmpty then some []
  else
    let parts := Text.splitOn ':' cs
    let group? (part : List Char) : Option (List Nat) :=
      if part.isEmpty || 4 < part.length then none else (number? 16 part).map ([·])
    match parts.reverse with
    | [] => some []
    | last :: before => do
      let before ← before.reverse.mapM group?
      let last ← if last.contains '.' then byteGroups? last else group? last
      return before.flatten ++ last

/-- A text cut at its first double colon. -/
def cutGap? : List Char → Option (List Char × List Char)
  | ':' :: ':' :: cs => some ([], cs)
  | [] => none
  | c :: cs => (cutGap? cs).map fun (before, after) => (c :: before, after)

/-- The eight groups of an address. A double colon stands for at least one group of zero. -/
def eightGroups? (cs : List Char) : Option (List Nat) := do
  match cutGap? cs with
  | none =>
    let groups ← groups? cs
    if groups.length = 8 then some groups else none
  | some (before, after) =>
    if before.contains '.' then none
    else
      let before ← groups? before
      let after ← groups? after
      if before.length + after.length ≤ 7 then
        some (before ++ List.replicate (8 - before.length - after.length) 0 ++ after)
      else none

/-- The length of the run of zeros that a list starts with. -/
def zeroRun (groups : List Nat) : Nat := (groups.takeWhile (· == 0)).length

/-- The first of the longest runs of zeros: its start and its length. -/
def longestZeros : (start : Nat) → List Nat → Nat × Nat
  | start, [] => (start, 0)
  | start, group :: rest =>
    let here := zeroRun (group :: rest)
    let later := longestZeros (start + 1) rest
    if later.2 ≤ here then (start, here) else later

/-- The written form of an address of eight groups. -/
def writeGroups (groups : List Nat) : List Char :=
  let join (groups : List Nat) : List Char := ":".toList.intercalate (groups.map (Nat.toDigits 16))
  let (start, length) := longestZeros 0 groups
  if 2 ≤ length then
    '[' :: join (groups.take start) ++ [':', ':'] ++ join (groups.drop (start + length)) ++ [']']
  else '[' :: join groups ++ [']']

/-- A host between brackets. -/
def bracketed? (cs : List Char) : Option (List Char) :=
  match cs.reverse with
  | ']' :: inner => (eightGroups? inner.reverse).map writeGroups
  | _ => none

/-! ## Hosts -/

/-- Characters that no host may hold. -/
def isSeparator (c : Char) : Bool :=
  c.toNat == 0 || "\t\n\r #/:<>?@[\\]^|".contains c

/-- The host of a special scheme. -/
def specialHost? (cs : List Char) : Option (List Char) :=
  match cs with
  | '[' :: cs => bracketed? cs
  | _ => do
    let text ← unescaped? cs
    let domain ← domain? text
    if domain.isEmpty || domain.any fun c => isSeparator c || isControl c || c == '%' then none
    else if endsInNumber domain then
      let parts := domainParts domain
      let numbers ← parts.mapM partValue?
      if 4 < numbers.length then none else (joinNumbers? 4 numbers).map writeNumbers
    else some domain

/-- The host of a scheme that is not special, which may be empty. -/
def plainHost? (cs : List Char) : Option (List Char) :=
  match cs with
  | '[' :: cs => bracketed? cs
  | _ => if cs.any isSeparator then none else some (escape isControl cs)

/-- The host that a text stands for. -/
def host? (special : Bool) (cs : List Char) : Option (List Char) :=
  if special then specialHost? cs else plainHost? cs

end SolanaBlocks.Url
