import BalancerSync.Text.Quoted

/-!
# Errors

Everything that can stop an operation. An operation wraps the error it passes on with its own name,
so the text of an error reads as a trail from the outermost operation to the cause. A request to the
cluster fails with an error status, with an answer that is not of the expected form, or before it is
sent because its target cannot be written or there is no cluster.

## Main Definitions

* `Cluster.Failure`, `Cluster.Failure.message` : the ways a request to the cluster fails
* `ErrorCode` : the codes of the cloud's error answers that the controller reacts to
* `Error` : the causes, and the wrapper that adds an operation
* `Error.root` : the cause below all operations
* `Error.message` : the text
* `Error.isNotFound`, `Error.isRetriable`, `Error.isTransient` : the classes that decide what
  happens next; they look at the cause only
-/

namespace BalancerSync.Cluster

/-! ### Failed cluster requests -/

/-- Why a request to the cluster failed. -/
inductive Failure where
  /-- The cluster answered with an error status. -/
  | refused (status message reason : String) (code : Nat)
  /-- The answer does not have the expected form. -/
  | malformedAnswer
  /-- The object that the request is about has no name. -/
  | unnamed
  /-- The request has no valid target. -/
  | malformedTarget
  /-- There is no cluster to send the request to. -/
  | noCluster
  deriving DecidableEq, Repr

/-- The code of the error status, if there is one. -/
def Failure.code? : Failure → Option Nat
  | refused _ _ _ code => some code
  | _ => none

/-- The text of a failure. An error status is told twice, first for people and then field by
field. -/
def Failure.message : Failure → String
  | refused status message reason code =>
    "ApiError: " ++ message ++ ": " ++ reason ++ " (ErrorResponse \x7b status: " ++
      Text.quoted status ++ ", message: " ++ Text.quoted message ++ ", reason: " ++
      Text.quoted reason ++ ", code: " ++ toString code ++ " \x7d)"
  | malformedAnswer => "Error deserializing response"
  | unnamed =>
    "failed to build request: failed to validate request: A non-empty name is required"
  | malformedTarget =>
    "failed to build request: failed to build request: invalid uri character"
  | noCluster => "failed to infer config"

end BalancerSync.Cluster

namespace BalancerSync

/-! ### Errors -/

/-- A code in an error answer of the cloud. -/
inductive ErrorCode where
  | notFound
  | conflict
  | locked
  | uniquenessError
  | rateLimitExceeded
  | other (code : String)
  deriving DecidableEq, Repr, Inhabited

namespace ErrorCode

/-- The code that a text stands for. -/
def ofText (s : String) : ErrorCode :=
  if s = "not_found" then notFound
  else if s = "conflict" then conflict
  else if s = "locked" then locked
  else if s = "uniqueness_error" then uniquenessError
  else if s = "rate_limit_exceeded" then rateLimitExceeded
  else other s

/-- The text of a code. -/
def text : ErrorCode → String
  | notFound => "not_found"
  | conflict => "conflict"
  | locked => "locked"
  | uniquenessError => "uniqueness_error"
  | rateLimitExceeded => "rate_limit_exceeded"
  | other code => code

/-- Whether the controller gives the code no meaning of its own. -/
def isOther : ErrorCode → Bool
  | other _ => true
  | _ => false

/-- Reading a code loses nothing. -/
@[simp] theorem text_ofText (s : String) : (ofText s).text = s := by
  unfold ofText
  repeat' split
  all_goals simp_all [text]

end ErrorCode

/-- Everything that can stop an operation. -/
inductive Error where
  /-- A request to the cluster failed. -/
  | kube (failure : Cluster.Failure)
  /-- No usable answer came from the cloud. -/
  | http (detail : String)
  | serialization (detail : String)
  | config (text : String)
  | validation (text : String)
  /-- A setting of the Service could not be read. -/
  | setting (key reason : String)
  | notFound (text : String)
  /-- A lookup that must have one result has several. -/
  | nonUnique (text : String)
  | alreadyExists (text : String)
  /-- The cloud refused a call. -/
  | cloudApi (code : ErrorCode) (text : String)
  /-- The cloud gave up on an action. -/
  | actionFailed (id : Int) (code text : String)
  | timeout (text : String)
  /-- The error `source`, passed on by an operation. -/
  | within (operation : String) (source : Error)
  | finalizer (text : String)
  deriving DecidableEq, Repr

namespace Error

/-- The cause below all operations. -/
def root : Error → Error
  | within _ source => source.root
  | e => e

/-- The text: the operations from the outermost to the innermost, then the cause. -/
def message : Error → String
  | kube failure => "Kubernetes API error: " ++ failure.message
  | http detail => "HTTP request failed: " ++ detail
  | serialization detail => "Serialization error: " ++ detail
  | config text => "Configuration error: " ++ text
  | validation text => "Validation error: " ++ text
  | setting key reason => "annotation " ++ key ++ ": " ++ reason
  | notFound text => "not found: " ++ text
  | nonUnique text => "non-unique result: " ++ text
  | alreadyExists text => "already exists: " ++ text
  | cloudApi code text => "cloud API error (" ++ code.text ++ "): " ++ text
  | actionFailed id code text =>
    "action " ++ toString id ++ " failed (" ++ code ++ "): " ++ text
  | timeout text => "timed out: " ++ text
  | within operation source => operation ++ ": " ++ source.message
  | finalizer text => "Finalizer error: " ++ text

/-- The operations around the cause, from the outermost. -/
def trail : Error → List String
  | within operation source => operation :: source.trail
  | _ => []

/-- The category of the cause, as metrics label it. -/
def kind : Error → String
  | kube _ => "kube"
  | http _ => "http"
  | serialization _ => "serialization"
  | config _ => "config"
  | validation _ => "validation"
  | setting _ _ => "annotation"
  | notFound _ => "not_found"
  | nonUnique _ => "non_unique"
  | alreadyExists _ => "already_exists"
  | cloudApi _ _ => "cloud_api"
  | actionFailed _ _ _ => "action"
  | timeout _ => "timeout"
  | within _ source => source.kind
  | finalizer _ => "finalizer"

/-- The code of the cloud's answer, if the cause is one. -/
def code? (e : Error) : Option ErrorCode :=
  match e.root with
  | cloudApi code _ => some code
  | _ => none

/-- Whether the cause is an answer of the cloud with one of these codes. -/
def hasCode (codes : List ErrorCode) (e : Error) : Bool :=
  match e.code? with
  | some code => codes.contains code
  | none => false

/-- Whether a resource is missing, by the controller's or the cloud's account. -/
def isNotFound (e : Error) : Bool :=
  match e.root with
  | notFound _ => true
  | cloudApi code _ => code == .notFound
  | _ => false

/-- Whether trying again soon can help. Problems with settings recur until someone changes them. -/
def isRetriable (e : Error) : Bool :=
  match e.root with
  | kube _ | http _ | timeout _ | actionFailed _ _ _ => true
  | cloudApi code _ => code == .conflict || code == .locked || code == .rateLimitExceeded
  | _ => false

/-- Whether the cloud is only busy with the resource. -/
def isTransient (e : Error) : Bool := e.hasCode [.conflict, .locked]

@[simp] theorem root_within (operation : String) (e : Error) :
    (within operation e).root = e.root := rfl

@[simp] theorem root_root (e : Error) : e.root.root = e.root := by
  induction e <;> simp_all [root]

@[simp] theorem isNotFound_within (operation : String) (e : Error) :
    (within operation e).isNotFound = e.isNotFound := rfl

@[simp] theorem isTransient_within (operation : String) (e : Error) :
    (within operation e).isTransient = e.isTransient := rfl

@[simp] theorem isRetriable_within (operation : String) (e : Error) :
    (within operation e).isRetriable = e.isRetriable := rfl

end Error

end BalancerSync
