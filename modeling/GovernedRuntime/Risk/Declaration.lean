/-
The risk declaration of a ticket text (`src/state/risk-declaration.ts`): the scan
for fenced and quoted lines, the declaration lines, and what they declare.
-/
import GovernedRuntime.Activation.Revision
import GovernedRuntime.Library.Pattern
import GovernedRuntime.State.Evidence
import Mathlib.Data.List.Dedup
import Mathlib.Data.List.Sort

namespace GovernedRuntime.Risk

open GovernedRuntime.Activation (isTrimmed trim)
open GovernedRuntime.Library
open GovernedRuntime.State
open Pattern

/-! ### Values -/

/-- `toUpperCase`, as far as a capital of the Latin alphabet comes of it. -/
def upperChars (c : Char) : List Char :=
  match c.toNat with
  | 0xDF => ['S', 'S']
  | 0x131 => ['I']
  | 0x149 => [Char.ofNat 0x2BC, 'N']
  | 0x17F => ['S']
  | 0x1F0 => ['J', Char.ofNat 0x30C]
  | 0x1E96 => ['H', Char.ofNat 0x331]
  | 0x1E97 => ['T', Char.ofNat 0x308]
  | 0x1E98 => ['W', Char.ofNat 0x30A]
  | 0x1E99 => ['Y', Char.ofNat 0x30A]
  | 0x1E9A => ['A', Char.ofNat 0x2BE]
  | 0xFB00 => ['F', 'F']
  | 0xFB01 => ['F', 'I']
  | 0xFB02 => ['F', 'L']
  | 0xFB03 => ['F', 'F', 'I']
  | 0xFB04 => ['F', 'F', 'L']
  | 0xFB05 => ['S', 'T']
  | 0xFB06 => ['S', 'T']
  | _ => [c.toUpper]

/-- `[\w-]`. -/
def isWordOrDash (c : Char) : Bool := c.isAlphanum || c == '_' || c == '-'

/-- `^…(?![\w-])`. -/
def leadingClass (pattern : Pattern) : Pattern :=
  concat [textStart, pattern, .notBefore isWordOrDash]

def parseDeclarationValue (raw : String) : Option TaskClass :=
  let plain := raw.toList.map fun c => if ['*', '_', '\x60'].contains c then ' ' else c
  let cleaned := (trim (String.ofList plain)).toList.flatMap upperChars
  if (leadingClass (concat [word "HIGH", .char fun c => isTrimmed c || c == '-',
      word "RISK"])).test cleaned then some .highRisk
  else if (leadingClass (word "TRIVIAL")).test cleaned then some .trivial
  else if (leadingClass (word "STANDARD")).test cleaned then some .standard
  else none

/-! ### Lines -/

/-- A fence is a run of one delimiter. -/
structure Fence where
  delimiter : Char
  length : Nat
deriving DecidableEq, Repr

/-- A fence indented by at most three spaces, and the text after it. -/
def fenceOf (line : String) : Option (Fence × List Char) :=
  let indented := line.toList
  let text := indented.dropWhile (· == ' ')
  match text.head? with
  | none => none
  | some delimiter =>
      let run := text.takeWhile (· == delimiter)
      if indented.length - text.length ≤ 3 && ['\x60', '~'].contains delimiter &&
          3 ≤ run.length then
        some (⟨delimiter, run.length⟩, text.dropWhile (· == delimiter))
      else none

def isClosingFence (line : String) (fence : Fence) : Bool :=
  match fenceOf line with
  | none => false
  | some (token, rest) =>
      rest.all (fun c => c == ' ' || c == '\t') &&
        token.delimiter == fence.delimiter && fence.length ≤ token.length

structure DeclarationLineScan where
  fence : Option Fence
  skip : Bool
deriving DecidableEq, Repr

/-- `/^\s*>/`. -/
def quotedLine : Pattern := concat [textStart, .many isTrimmed, word ">"]

/-- `/^(?: {4,}|\t)/`. -/
def indentedLine : Pattern := concat [textStart, .alt (word "    ") (word "\t")]

/-- One line of the scan for fences and quotes. -/
def scanDeclarationLine (line : String) : Option Fence → DeclarationLineScan
  | some fence => ⟨if isClosingFence line fence then none else some fence, true⟩
  | none =>
      match fenceOf line with
      | some (token, _) => ⟨some token, true⟩
      | none => ⟨none, quotedLine.test line.toList || indentedLine.test line.toList⟩

/-- A letter in either case. -/
def letters (text : String) : Pattern :=
  text.toList.foldr
    (fun letter pattern => .seq (.char fun c => c == letter || c == letter.toUpper)
      pattern) .empty

/-- `DECLARATION_LINE` up to the blanks after the separator. -/
def declarationHead : Pattern :=
  let blanks := Pattern.many isTrimmed
  let someBlanks := Pattern.seq (.char isTrimmed) blanks
  let hash := optional (word "#")
  let emphasis := optional (words ["**", "__"])
  concat [textStart, blanks,
    optional (.alt (.seq (.char (['-', '*', '+'].contains ·)) someBlanks)
      (concat [word "#", hash, hash, hash, hash, hash, someBlanks])),
    emphasis, blanks,
    .alt (.seq (letters "risk") (optional (.seq blanks (letters "class"))))
      (letters "risikoklasse"),
    blanks, emphasis, blanks, .char ([':', '='].contains ·),
    .many fun c => c == ' ' || c == '\t']

/-- `DECLARATION_LINE.exec(line)`: what its group captures. -/
def declarationCapture (line : String) : Option String :=
  ((declarationHead.ends ⟨true, line.toList⟩).find? (·.rest.all anyChar)).map
    (String.ofList ·.rest)

/-- `text.split(/\r?\n/)`: a line keeps its carriage return at the end only. -/
def textLines (text : String) : List String :=
  let pieces := text.toList.splitOn '\n'
  (pieces.dropLast.map fun piece =>
      String.ofList (if piece.getLast? == some '\r' then piece.dropLast else piece)) ++
    (pieces.getLast?.toList.map String.ofList)

/-- The values and the malformed texts found so far, and the open fence. -/
structure DeclarationScan where
  fence : Option Fence
  values : List TaskClass
  invalidRaw : List String
deriving DecidableEq, Repr

def collectDeclarationLine (scan : DeclarationScan) (line : String) :
    DeclarationScan :=
  let lineScan := scanDeclarationLine line scan.fence
  let scan := { scan with fence := lineScan.fence }
  if lineScan.skip then scan
  else
    match declarationCapture line with
    | none => scan
    | some captured =>
        let raw := trim captured
        match parseDeclarationValue raw with
        | none =>
            { scan with
              invalidRaw := scan.invalidRaw ++ [if raw == "" then "(no value)" else raw] }
        | some taskClass => { scan with values := scan.values ++ [taskClass] }

def collectDeclarationLines (text : String) : DeclarationScan :=
  (textLines text).foldl collectDeclarationLine ⟨none, [], []⟩

def parseTicketRiskDeclaration (text : String) : TicketRiskDeclaration :=
  let scan := collectDeclarationLines text
  if !scan.invalidRaw.isEmpty then .invalid ("; ".intercalate scan.invalidRaw)
  else
    match scan.values.dedup.insertionSort fun a b => b.order ≤ a.order with
    | [] => .absent
    | [taskClass] => .declared taskClass
    | first :: others => .conflict first others

example : parseTicketRiskDeclaration "Fix a typo\n- **Risk class:** trivial (docs)" =
    .declared .trivial := by decide +kernel

end GovernedRuntime.Risk
