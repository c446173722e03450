/-
The durable opt-in authority: activation revisions, the head that selects the
committed one, and the enrollment marker (`src/state/governance-activation.ts`).
Schema literals (`schemaVersion`) carry no information and are left out; a value
with another literal, a missing or an extra field is `StoredValue.other`.
-/
import GovernedRuntime.Library.Texts
import Mathlib.Data.List.DropRight

namespace GovernedRuntime.Activation

open GovernedRuntime.Library (isLowerHex)

/-! ### Schema primitives -/

/-- The largest integer a schema `int()` accepts. -/
def maxSafeInteger : Nat := 9007199254740991

/-- `z.number().int().positive()`. -/
def isPositiveInt (n : Nat) : Bool := 0 < n && n ≤ maxSafeInteger

/-- `z.string().min(1)`. -/
def isNonEmpty (s : String) : Bool := s != ""

def isHex (c : Char) : Bool := isLowerHex c || ('A' ≤ c && c ≤ 'F')

/-- `/^[a-f0-9]{64}$/`. -/
def isSha256Hex (s : String) : Bool :=
  s.toList.length == 64 && s.toList.all isLowerHex

/-- A lowercase hexadecimal SHA-256 digest, the codomain of the hash. -/
def Digest : Type := { s : String // isSha256Hex s = true }

instance : DecidableEq Digest := inferInstanceAs (DecidableEq (Subtype _))

def Digest.text (d : Digest) : String := d.1

@[simp] theorem Digest.isSha256Hex_text (d : Digest) : isSha256Hex d.text = true :=
  d.2

/-- One character class per position, the shape of a fixed-length pattern. -/
def matchesClasses : List (Char → Bool) → List Char → Bool
  | [], [] => true
  | accepts :: rest, c :: cs => accepts c && matchesClasses rest cs
  | _, _ => false

def uuidClasses : List (Char → Bool) :=
  List.replicate 8 isHex ++ [(· == '-')] ++
  List.replicate 4 isHex ++ [(· == '-')] ++
  [fun c => '1' ≤ c && c ≤ '8'] ++ List.replicate 3 isHex ++ [(· == '-')] ++
  [fun c => ['8', '9', 'a', 'b', 'A', 'B'].contains c] ++
  List.replicate 3 isHex ++ [(· == '-')] ++ List.replicate 12 isHex

/-- `z.string().uuid()`: a versioned identifier, or the nil or the max one. -/
def isUuid (s : String) : Bool :=
  matchesClasses uuidClasses s.toList ||
    s == "00000000-0000-0000-0000-000000000000" ||
    s == "ffffffff-ffff-ffff-ffff-ffffffffffff"

theorem accepts_of_matchesClasses {classes : List (Char → Bool)} {text : List Char}
    (hmatches : matchesClasses classes text = true) {c : Char} (hmem : c ∈ text) :
    ∃ accepts ∈ classes, accepts c = true := by
  induction classes generalizing text with
  | nil =>
      cases text with
      | nil => exact absurd hmem List.not_mem_nil
      | cons => cases hmatches
  | cons accepts classes ih =>
      cases text with
      | nil => cases hmatches
      | cons head text =>
          obtain ⟨hhead, htext⟩ := Bool.and_eq_true_iff.1 hmatches
          rcases List.mem_cons.1 hmem with rfl | hmem
          · exact ⟨accepts, List.mem_cons_self, hhead⟩
          · obtain ⟨class', hclass, haccepts⟩ := ih htext hmem
            exact ⟨class', List.mem_cons_of_mem _ hclass, haccepts⟩

theorem colon_notMem_of_isUuid {id : String} (huuid : isUuid id = true) : ':' ∉ id.toList := by
  intro hmem
  simp only [isUuid, Bool.or_eq_true, beq_iff_eq] at huuid
  rcases huuid with (hmatches | rfl) | rfl
  · obtain ⟨accepts, hclass, haccepts⟩ := accepts_of_matchesClasses hmatches hmem
    have hreject : uuidClasses.all (fun accepts => !accepts ':') = true := by decide
    have hcolon := List.all_eq_true.1 hreject accepts hclass
    rw [haccepts] at hcolon
    cases hcolon
  · revert hmem
    decide
  · revert hmem
    decide

/-- The code points `String.prototype.trim` removes. -/
def isTrimmed (c : Char) : Bool :=
  [0x09, 0x0A, 0x0B, 0x0C, 0x0D, 0x20, 0xA0, 0x1680, 0x2028, 0x2029, 0x202F,
    0x205F, 0x3000, 0xFEFF].contains c.toNat ||
    (0x2000 ≤ c.toNat && c.toNat ≤ 0x200A)

/-- `z.string().trim()`. -/
def trim (s : String) : String :=
  String.ofList ((s.toList.dropWhile isTrimmed).rdropWhile isTrimmed)

theorem rdropWhile_dropWhile_fixed {α : Type} (p : α → Bool) (l : List α) :
    ((l.dropWhile p).rdropWhile p).dropWhile p =
      (l.dropWhile p).rdropWhile p := by
  rw [List.dropWhile_eq_self_iff]
  intro hlength
  have hprefix := List.rdropWhile_prefix p (l.dropWhile p)
  have hhead := hprefix.getElem hlength
  have hlong : 0 < (l.dropWhile p).length :=
    Nat.lt_of_lt_of_le hlength hprefix.length_le
  rw [hhead]
  exact List.dropWhile_get_zero_not p l hlong

/-- Reading a stored actor back trims it again, and nothing changes. -/
@[simp] theorem trim_trim (s : String) : trim (trim s) = trim s := by
  simp only [trim, String.toList_ofList, rdropWhile_dropWhile_fixed,
    List.rdropWhile_idempotent]

/-! ### Records -/

inductive Status where
  | activating
  | active
  | ending
  | inactive
deriving DecidableEq, Repr

/-- The channel a decision reached the runtime through. -/
inductive DecisionSource where
  | hostCommand
  | autonomous
  | delegation
deriving DecidableEq, Repr

inductive ActorSource where
  | env
  | git
  | claim
  | oidc
  | unknown
deriving DecidableEq, Repr

inductive ActorAssurance where
  | bestEffort
  | claimValidated
  | idpVerified
deriving DecidableEq, Repr

@[ext]
structure GovernanceDecisionActor where
  actorId : String
  actorEmail : Option String
  actorDisplayName : Option String
  actorSource : ActorSource
  actorAssurance : ActorAssurance
deriving DecidableEq, Repr

structure HostCallIdentity where
  sessionId : String
  messageId : String
  callId : String
deriving DecidableEq, Repr

structure GovernanceActivationRevision where
  sessionId : String
  rootSessionId : String
  activationId : String
  generation : Nat
  revision : Nat
  status : Status
  directory : String
  worktreeRoot : String
  policyDigest : String
  decisionId : String
  decisionSource : DecisionSource
  decisionActor : GovernanceDecisionActor
  previousDigest : Option String
  parentDispatch : Option HostCallIdentity
deriving DecidableEq, Repr

structure GovernanceActivationHead where
  sessionId : String
  revision : Nat
  digest : String
deriving DecidableEq, Repr

structure GovernanceEnrollment where
  sessionId : String
  firstActivationId : String
deriving DecidableEq, Repr

/-- Written only after the activation's audit event is committed. -/
structure GovernanceActivationAuditConfirmation where
  sessionId : String
  activationId : String
deriving DecidableEq, Repr

/-- Whatever the host storage may hold under a key.  The strict schemas share no
shape, so a value can parse under at most one of them. -/
inductive StoredValue where
  | head (value : GovernanceActivationHead)
  | revision (value : GovernanceActivationRevision)
  | enrollment (value : GovernanceEnrollment)
  | auditConfirmation (value : GovernanceActivationAuditConfirmation)
  | other (text : String)
deriving DecidableEq, Repr

/-! ### Parsing -/

def HostCallIdentity.isValid (value : HostCallIdentity) : Bool :=
  isNonEmpty value.sessionId && isNonEmpty value.messageId &&
    isNonEmpty value.callId

/-- The only field a schema rewrites is the trimmed actor id. -/
def GovernanceDecisionActor.normalize (actor : GovernanceDecisionActor) :
    GovernanceDecisionActor :=
  { actor with actorId := trim actor.actorId }

def GovernanceActivationRevision.normalize
    (value : GovernanceActivationRevision) : GovernanceActivationRevision :=
  { value with decisionActor := value.decisionActor.normalize }

def GovernanceActivationRevision.isValid
    (value : GovernanceActivationRevision) : Bool :=
  isNonEmpty value.sessionId && isNonEmpty value.rootSessionId &&
    isUuid value.activationId && isPositiveInt value.generation &&
    isPositiveInt value.revision && isNonEmpty value.directory &&
    isNonEmpty value.worktreeRoot && isSha256Hex value.policyDigest &&
    isNonEmpty value.decisionId &&
    isNonEmpty (trim value.decisionActor.actorId) &&
    value.previousDigest.all isSha256Hex &&
    value.parentDispatch.all HostCallIdentity.isValid

def GovernanceActivationRevision.safeParse
    (value : GovernanceActivationRevision) : Option GovernanceActivationRevision :=
  if value.isValid then some value.normalize else none

def GovernanceActivationHead.isValid (value : GovernanceActivationHead) : Bool :=
  isNonEmpty value.sessionId && isPositiveInt value.revision &&
    isSha256Hex value.digest

def GovernanceEnrollment.isValid (value : GovernanceEnrollment) : Bool :=
  isNonEmpty value.sessionId && isUuid value.firstActivationId

def GovernanceActivationAuditConfirmation.isValid
    (value : GovernanceActivationAuditConfirmation) : Bool :=
  isNonEmpty value.sessionId && isUuid value.activationId

def StoredValue.parseRevision : StoredValue → Option GovernanceActivationRevision
  | .revision value => value.safeParse
  | _ => none

def StoredValue.parseHead : StoredValue → Option GovernanceActivationHead
  | .head value => if value.isValid then some value else none
  | _ => none

def StoredValue.parseEnrollment : StoredValue → Option GovernanceEnrollment
  | .enrollment value => if value.isValid then some value else none
  | _ => none

def StoredValue.parseAuditConfirmation :
    StoredValue → Option GovernanceActivationAuditConfirmation
  | .auditConfirmation value => if value.isValid then some value else none
  | _ => none

@[simp] theorem GovernanceDecisionActor.normalize_normalize
    (actor : GovernanceDecisionActor) : actor.normalize.normalize = actor.normalize := by
  simp [normalize]

@[simp] theorem GovernanceActivationRevision.normalize_normalize
    (value : GovernanceActivationRevision) :
    value.normalize.normalize = value.normalize := by
  simp [normalize]

@[simp] theorem GovernanceActivationRevision.isValid_normalize
    (value : GovernanceActivationRevision) :
    value.normalize.isValid = value.isValid := by
  simp [isValid, normalize, GovernanceDecisionActor.normalize]

theorem GovernanceActivationRevision.safeParse_eq_some
    {value parsed : GovernanceActivationRevision} :
    value.safeParse = some parsed ↔
      value.isValid = true ∧ parsed = value.normalize := by
  by_cases hvalid : value.isValid = true
  · simp [safeParse, hvalid, eq_comm]
  · simp [safeParse, hvalid]

theorem GovernanceActivationHead.revision_pos {value : GovernanceActivationHead}
    (hvalid : value.isValid = true) : 0 < value.revision := by
  simp only [GovernanceActivationHead.isValid, isPositiveInt, Bool.and_eq_true,
    decide_eq_true_eq] at hvalid
  exact hvalid.1.2.1

/-- A parsed revision is stored and read back unchanged. -/
theorem GovernanceActivationRevision.safeParse_stable
    {value parsed : GovernanceActivationRevision}
    (hparsed : value.safeParse = some parsed) : parsed.safeParse = some parsed := by
  obtain ⟨hvalid, rfl⟩ := safeParse_eq_some.mp hparsed
  simp [safeParse, hvalid]

end GovernedRuntime.Activation
