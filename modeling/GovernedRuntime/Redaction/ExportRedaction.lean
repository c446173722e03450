/-
Export-time redaction of archive artifacts (`src/redaction/export-redaction.ts`):
what a payload still shows once it is masked, and the shape it keeps.
-/
import GovernedRuntime.Library.JsonStrings
import GovernedRuntime.Library.Pattern
import GovernedRuntime.Audit.CanonicalJson

namespace GovernedRuntime.Redaction

open GovernedRuntime.Library GovernedRuntime.Audit

variable {N : Type}

inductive RedactionMode where
  | none
  | basic
  | pseudonymous
deriving DecidableEq, Repr

inductive ExportRedactionErrorCode where
  | maxDepthExceeded
  | circularReference
deriving DecidableEq, Repr

structure ExportRedactionError where
  code : ExportRedactionErrorCode
  message : String
deriving DecidableEq, Repr

/-- The hash of a mask, and the sanitizer of the log
(`src/logging/redact.ts`) that error messages go through. -/
structure Environment where
  hashText : String → String
  sanitizeDiagnosticString : String → String

def Environment.hashTextShort (env : Environment) (text : String) (length : Nat) : String :=
  String.ofList ((env.hashText text).toList.take length)

variable (env : Environment)

def stableMask (value : String) : RedactionMode → String
  | .none => value
  | .basic => "[REDACTED]"
  | .pseudonymous => "[REDACTED:" ++ env.hashTextShort value 12 ++ "]"

/-! ### Which strings are masked -/

/-- `toLowerCase`, as far as ASCII letters come out of it: any other letter it
changes becomes one outside ASCII, which no key below has. -/
def lowerCase (c : Char) : List Char :=
  if c.toNat = 0x130 then ['i', Char.ofNat 0x307]
  else if c.toNat = 0x212A then ['k']
  else [c.toLower]

/-- `(^|[_-])dir($|[_-])` -/
def dirPattern : Pattern :=
  let separator : Pattern := .char (['_', '-'].contains ·)
  .concat [.alt .textStart separator, .word "dir", .alt .textEnd separator]

/-- `includes` -/
def includes (text part : List Char) : Bool := text.tails.any part.isPrefixOf

def isPathBearingKey (key : String) : Bool :=
  let normalized := key.toList.flatMap lowerCase
  normalized == "worktree".toList || normalized == "workspace".toList ||
    normalized == "sessiondir".toList || includes normalized "path".toList ||
    includes normalized "directory".toList || dirPattern.test normalized

example : ["artifactPath", "LOG_DIR", "Workspace", "director"].map isPathBearingKey =
    [true, true, true, false] := by decide

structure KeyTables where
  allowList : List String
  sensitiveKeys : List String

def redactStringField (mode : RedactionMode) (tables : KeyTables) :
    Option String → String → String
  | none, text => stableMask env text mode
  | some key, text =>
      if isPathBearingKey key then stableMask env text mode
      else if tables.sensitiveKeys.contains key then stableMask env text mode
      else if tables.allowList.contains key then text
      else stableMask env text mode

/-! ### The walk -/

def maxRedactDepth : Nat := 64

def maxDepthExceeded : ExportRedactionError :=
  ⟨.maxDepthExceeded, "Redaction failed: maximum nesting depth exceeded"⟩

section Walk

variable (mode : RedactionMode) (tables : KeyTables)

mutual

/-- A tree has no cycle to refuse.  The entries of an object are assigned to a
plain one, so that an entry under the prototype's key leaves nothing. -/
def walk (value : Json N) (depth : Nat) (key : Option String) :
    Except ExportRedactionError (Json N) :=
  if mode = .none then .ok value
  else if maxRedactDepth ≤ depth then .error maxDepthExceeded
  else
    match value with
    | .string text => .ok (.string (redactStringField env mode tables key text))
    | .array items => do
        let walked ← walkItems items (depth + 1)
        return .array walked
    | .object fields => do
        let walked ← walkFields fields (depth + 1)
        return .object (ownFields walked)
    | leaf => .ok leaf
termination_by structural value

def walkItems (items : List (Json N)) (depth : Nat) :
    Except ExportRedactionError (List (Json N)) :=
  match items with
  | [] => .ok []
  | item :: rest => do
      let walked ← walk item depth none
      let others ← walkItems rest depth
      return walked :: others
termination_by structural items

def walkFields (fields : List (String × Json N)) (depth : Nat) :
    Except ExportRedactionError (List (String × Json N)) :=
  match fields with
  | [] => .ok []
  | (key, value) :: rest => do
      let walked ← walk value depth (some key)
      let others ← walkFields rest depth
      return (key, walked) :: others
termination_by structural fields

end

def redactUnknownStrings (value : Json N) : Except ExportRedactionError (Json N) :=
  walk env mode tables value 0 none

end Walk

/-! ### Allow-lists -/

def exportBaseStringAllowList : List String :=
  ["decisionId", "timestamp", "schemaVersion", "checkId", "phase", "mode", "kind", "type", "id",
    "status", "checkerId"]

def reviewReport : KeyTables where
  allowList := exportBaseStringAllowList ++ ["source", "verdict", "severity"]
  sensitiveKeys := ["message", "detail", "ref", "title", "initiatedBy"]

def decisionReceipt : KeyTables where
  allowList := exportBaseStringAllowList ++
    ["source", "verdict", "gatePhase", "fromPhase", "toPhase", "event", "policyMode"]
  sensitiveKeys := ["rationale"]

def sessionState : KeyTables where
  allowList := exportBaseStringAllowList ++
    ["verdict", "taskClass", "event", "action", "profile", "fromPhase", "toPhase", "gatePhase",
      "errorPhase", "finalPhase"]
  sensitiveKeys := ["initiatedBy"]

def auditDetail : KeyTables where
  allowList := exportBaseStringAllowList ++
    ["tool", "verdict", "gatePhase", "fromPhase", "toPhase", "event", "policyMode", "errorPhase",
      "action", "finalPhase", "errorMessage"]
  sensitiveKeys := []

def diagnostic : KeyTables where
  allowList := exportBaseStringAllowList ++
    ["role", "tool", "agent", "status", "providerID", "modelID", "variant", "sessionID",
      "sessionId", "messageID", "messageId", "partID", "partId", "callID", "callId", "parentID",
      "parentId", "attemptId", "obligationId", "dispatchId", "activationId", "generation",
      "policyDigest", "subjectDigest", "sha256", "mime"]
  sensitiveKeys :=
    ["text", "content", "prompt", "output", "input", "arguments", "args", "result", "message",
      "error", "path", "directory", "worktree", "command", "url", "title", "detail", "reason",
      "description", "summary"]

/-! ### Public redaction functions -/

section Redactors

variable (payload : Json N) (mode : RedactionMode)

def redactReviewReport : Except ExportRedactionError (Json N) :=
  if mode = .none then .ok payload else redactUnknownStrings env mode reviewReport payload

def redactDecisionReceipts : Except ExportRedactionError (Json N) :=
  if mode = .none then .ok payload else redactUnknownStrings env mode decisionReceipt payload

/-- `typeof value === 'object'`, where the value is not null. -/
def isObject : Json N → Bool
  | .array _ => true
  | .object _ => true
  | _ => false

/-- `result[key] = stableMask(source[key])`, where that is a string. -/
def maskTextFromSource (source result : Json N) (key : String) : Json N :=
  match source.get? key with
  | some (.string text) => result.update key fun _ => .string (stableMask env text mode)
  | _ => result

def maskIdentityFromSource (source result : Json N) (key : String) : Json N :=
  match source.get? key, result.get? key with
  | some srcObj, some resultObj =>
      if isObject srcObj && isObject resultObj then
        result.update key fun _ =>
          ["id", "displayName", "email"].foldl (maskTextFromSource env mode srcObj) resultObj
      else result
  | _, _ => result

def redactSessionState : Except ExportRedactionError (Json N) :=
  if mode = .none then .ok payload
  else do
    let result ← redactUnknownStrings env mode sessionState payload
    return ["actorInfo", "initiatedByIdentity"].foldl (maskIdentityFromSource env mode payload)
      result

def redactDiagnosticPayload : Except ExportRedactionError (Json N) :=
  if mode = .none then .ok payload else redactUnknownStrings env mode diagnostic payload

/-- A string rewritten, any other value kept. -/
def onText (f : String → String) : Json N → Json N
  | .string text => .string (f text)
  | value => value

def redactAuditDetail (detail : Json N) : Except ExportRedactionError (Json N) :=
  if mode = .none then .ok detail
  else
    redactUnknownStrings env mode auditDetail
      (detail.update "errorMessage" (onText env.sanitizeDiagnosticString))

/-- An actor with the strings that identify it masked. -/
def maskActorInfo (actorInfo : Json N) : Json N :=
  if isObject actorInfo then
    ["id", "email", "displayName"].foldl
      (fun masked key => masked.update key (onText fun text => stableMask env text mode)) actorInfo
  else actorInfo

def redactEventDetail (out : Json N) : Except ExportRedactionError (Json N) :=
  match out.get? "detail" with
  | some detail =>
      if isObject detail then do
        let redacted ← redactAuditDetail env mode detail
        return out.update "detail" fun _ => redacted
      else return out
  | none => return out

def redactAuditEvent (event : Json N) : Except ExportRedactionError (Json N) :=
  if mode = .none then .ok event
  else redactEventDetail env mode (event.update "actorInfo" (maskActorInfo env mode))

end Redactors

end GovernedRuntime.Redaction
