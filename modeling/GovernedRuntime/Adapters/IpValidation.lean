/-
Private and reserved addresses (`src/adapters/ip-validation.ts`): the syntax checks
and the classification that the checks of a fetched URL rest on.
-/
import Mathlib.Data.List.Basic

namespace GovernedRuntime.Adapters

/-! ### IPv4 -/

structure Ipv4Range where
  network : BitVec 32
  mask : BitVec 32

/-- `PRIVATE_IPV4_RANGES`. -/
def privateIpv4Ranges : List Ipv4Range :=
  [⟨0x7f000000, 0xff000000⟩, ⟨0x0a000000, 0xff000000⟩, ⟨0xac100000, 0xfff00000⟩,
    ⟨0xc0a80000, 0xffff0000⟩, ⟨0xa9fe0000, 0xffff0000⟩, ⟨0x00000000, 0xff000000⟩,
    ⟨0x64400000, 0xffc00000⟩, ⟨0xc0000200, 0xffffff00⟩, ⟨0xc6336400, 0xffffff00⟩,
    ⟨0xcb007100, 0xffffff00⟩, ⟨0xc6120000, 0xfffe0000⟩, ⟨0xe0000000, 0xf0000000⟩,
    ⟨0xf0000000, 0xf0000000⟩, ⟨0xffffffff, 0xffffffff⟩]

/-- One to three decimal digits, leading zeros allowed. -/
def parseOctet (part : List Char) : Option Nat :=
  if 1 ≤ part.length && part.length ≤ 3 && part.all (·.isDigit) then
    let n := part.foldl (fun value c => value * 10 + (c.toNat - '0'.toNat)) 0
    if n ≤ 255 then some n else none
  else none

def parseIPv4 (ip : List Char) : Option (BitVec 32) :=
  let parts := ip.splitOn '.'
  if parts.length != 4 then none
  else parts.foldlM
    (fun result part => (parseOctet part).map fun n => (result <<< 8) ||| BitVec.ofNat 32 n) 0

def isPrivateIPv4 (ip : BitVec 32) : Bool :=
  privateIpv4Ranges.any fun range => ip &&& range.mask == range.network

/-! ### Hextets -/

/-- The value of a digit of `[0-9a-f]`. -/
def hexDigit (c : Char) : Option Nat :=
  if c.isDigit then some (c.toNat - '0'.toNat)
  else if 'a' ≤ c && c ≤ 'f' then some (c.toNat - 'a'.toNat + 10)
  else none

def parseHextet (value : List Char) : Option Nat :=
  if 1 ≤ value.length && value.length ≤ 4 then
    value.foldlM (fun parsed c => (hexDigit c).map (parsed * 16 + ·)) 0
  else none

def parseHextets (segments : List (List Char)) : Option (List Nat) :=
  segments.mapM parseHextet

/-- `text.split('::')`. -/
def splitDouble : List Char → List (List Char)
  | [] => [[]]
  | ':' :: ':' :: rest => [] :: splitDouble rest
  | c :: rest => (splitDouble rest).modifyHead (c :: ·)

/-- `text ? text.split(':') : []`. -/
def splitHextetSegments (text : List Char) : List (List Char) :=
  if text.isEmpty then [] else text.splitOn ':'

def expandIpv6Hextets (ip : List Char) : Option (List Nat) :=
  if ip.contains '.' then none
  else
    match splitDouble ip with
    | [whole] => do
        let parsed ← parseHextets (splitHextetSegments whole)
        if parsed.length != 8 then none else some parsed
    | [first, second] => do
        let parsedLeft ← parseHextets (splitHextetSegments first)
        let parsedRight ← parseHextets (splitHextetSegments second)
        let segmentCount := parsedLeft.length + parsedRight.length
        if 8 ≤ segmentCount then none
        else some (parsedLeft ++ List.replicate (8 - segmentCount) 0 ++ parsedRight)
    | _ => none

/-! ### Syntax -/

/-- `toLowerCase`, as far as a hextet can have letters: no other character becomes a
digit of one. -/
def lowerCase (text : String) : List Char := text.toList.map Char.toLower

def allSegmentsAreHextets (segments : List (List Char)) : Bool :=
  segments.all fun segment => (parseHextet segment).isSome

def withinCompressedBudget (segments : List (List Char)) (max : Nat) : Bool :=
  segments.length ≤ max - 1 && allSegmentsAreHextets segments

def hextetPrefixValid (leading : List Char) (max : Nat) : Bool :=
  if "::".toList.isPrefixOf leading then
    let rest := leading.drop 2
    if rest.isEmpty then true
    else if rest.head? == some ':' then false
    else withinCompressedBudget (splitHextetSegments rest) max
  else if "::".toList.isSuffixOf leading then
    let before := leading.take (leading.length - 2)
    if before.getLast? == some ':' then false
    else withinCompressedBudget (splitHextetSegments before) max
  else if leading.tails.any ("::".toList.isPrefixOf ·) then
    match splitDouble leading with
    | [left, right] =>
        withinCompressedBudget (splitHextetSegments left ++ splitHextetSegments right) max
    | _ => false
  else
    let parts := leading.splitOn ':'
    if parts.length != max then false else allSegmentsAreHextets parts

/-- What stands before the last colon, and after it. -/
def splitLastColon (text : List Char) : List Char × List Char :=
  ((text.reverse.dropWhile (· != ':')).tail.reverse,
    (text.reverse.takeWhile (· != ':')).reverse)

def isIPv6Address (addr : String) : Bool :=
  if addr.length < 2 then false
  else
    let lo := lowerCase addr
    if !lo.contains ':' then false
    else
      let (before, tail) := splitLastColon lo
      if tail.contains '.' && (parseIPv4 tail).isSome then
        -- Right after a double colon only one of its colons is left.
        let leading := if before.getLast? == some ':' then before ++ [':'] else before
        hextetPrefixValid leading 6
      else hextetPrefixValid lo 8

/-! ### Private IPv6 addresses -/

/-- The IPv4 address of two hextets. -/
def joinHextets (high low : Nat) : BitVec 32 :=
  (BitVec.ofNat 32 high <<< 16) ||| BitVec.ofNat 32 low

def parseLegacyMappedIpv4 (ip : List Char) : Option (BitVec 32) :=
  if !"::ffff:".toList.isPrefixOf ip then none
  else
    let suffix := ip.drop 7
    match parseIPv4 suffix with
    | some dotted => some dotted
    | none =>
        match suffix.splitOn ':' with
        | [highHextet, lowHextet] => do
            let high ← parseHextet highHextet
            let low ← parseHextet lowHextet
            some (joinHextets high low)
        | _ => none

def parseIPv4MappedIPv6 (ip : List Char) : Option (BitVec 32) :=
  match parseLegacyMappedIpv4 ip with
  | some dotted => some dotted
  | none =>
      match expandIpv6Hextets ip with
      | none => none
      | some expanded =>
          if (expanded.take 5).any (· != 0) || expanded[5]? != some 0xffff then none
          else some (joinHextets (expanded[6]?.getD 0) (expanded[7]?.getD 0))

def parseIPv4CompatibleIpv6 (ip : List Char) : Option (BitVec 32) :=
  match if "::".toList.isPrefixOf ip then parseIPv4 (ip.drop 2) else none with
  | some dotted => some dotted
  | none =>
      match expandIpv6Hextets ip with
      | none => none
      | some expanded =>
          if (expanded.take 6).any (· != 0) then none
          else some (joinHextets (expanded[6]?.getD 0) (expanded[7]?.getD 0))

def isPrivateIPv6 (ip : String) : Bool :=
  let normalized := lowerCase ip
  match parseIPv4MappedIPv6 normalized <|> parseIPv4CompatibleIpv6 normalized with
  | some embeddedIpv4 => isPrivateIPv4 embeddedIpv4
  | none =>
      normalized == "::".toList || normalized == "::1".toList ||
        "fc".toList.isPrefixOf normalized || "fd".toList.isPrefixOf normalized ||
        ["fe8", "fe9", "fea", "feb"].any (·.toList.isPrefixOf normalized) ||
        "ff".toList.isPrefixOf normalized

example : isPrivateIPv6 "::FFFF:7f00:1" = true := by decide +kernel

end GovernedRuntime.Adapters
