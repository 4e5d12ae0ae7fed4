import CloudDirector.Base64
import CloudDirector.Number.Numeral
import CloudDirector.Shape.Descriptor
import CloudDirector.Text.Quoted

/-!
# Failures

What can go wrong, by its cause, and the trail of places that a failure passed on its way out.  The
wording of every message is in this module.
-/

namespace CloudDirector

/-- A mistake in the set-up: trying again cannot help. -/
inductive SetupFault where
  | sharedWireKey (typeName first second key : String)
  | differentShape (typeName : String)
  | sharedDiscriminator (discriminator typeName owner : String)
  | unregistered (what details : String)
  | notSubtype (discriminator concrete base : String)
  | notRecordType (typeName : String)
  | inheritance (typeName : String)
  | unresolved (references : List String)
  | registryInstalled
  | badExpression (expression : String)
  | expressionRest (expression rest : String)
  | fileTarget
  | undeclaredField (typeName field : String)
  | wrongRecord (concrete declared : String)
  | badAddress (address reason : String)
  | noDialect (address : String)
  | badHeader (text : String)
  | badToken
  | badVersion (text : String)
  | oldVersion (text : String)
  | badFlag (text : String)
  | badTimeout (text : String)
  | badLevel (text : String)
  /-- A set-up mistake in free words. -/
  | other (text : String)
  deriving DecidableEq

/-- A value that does not have the shape that was declared for it. -/
inductive ValueFault where
  | wrongJson (kind : Kind) (found : String)
  | notEncodable (kind : Kind) (found : String)
  | notFinite (x : Binary64)
  | badBytes (fault : Base64.Fault)
  | badDate (text : String)
  | badDateTime (text : String)
  | unmappedConstant (typeName constant : String)
  | notEnumText (typeName found : String)
  | notObject (typeName found : String)
  | wrongShape (descriptor : Descriptor) (found : String)
  | shapeNotEncodable (descriptor : Descriptor) (found : String)
  | wrongVariant (expected found : String)
  | noVariant (typeName constant : String)
  | tooLarge
  | tooSmall
  | missingField (typeName field : String)
  | badBody
  | undecodedBody
  | badLinkHeader (rest : String)
  /-- Something invalid, in free words. -/
  | invalid (what details : String)
  /-- Something that is not there. -/
  | missing (what : String)
  deriving DecidableEq

/-- A failure. -/
inductive Failure where
  | setup (fault : SetupFault)
  | io (operation path reason : String)
  | value (fault : ValueFault)
  | transport (action details : String)
  | notRegistered (typeName : String)
  | status (code : Nat) (message : String)
  deriving DecidableEq

/-! ## Wording -/

/-- How many steps from a type to an ancestor inheritance may have. -/
def inheritanceLimit : Nat := 32

/-- The oldest major version of the API that is understood. -/
def oldestMajor : Nat := 27

/-- The wording of a set-up mistake. -/
def SetupFault.message : SetupFault → String
  | sharedWireKey typeName first second key =>
    s!"Schema `{typeName}` maps fields `{first}` and `{second}` to the same wire key `{key}`"
  | differentShape typeName => s!"Type `{typeName}` is already registered with a different shape"
  | sharedDiscriminator discriminator typeName owner =>
    s!"Discriminator `{discriminator}` of `{typeName}` is already used by `{owner}`"
  | unregistered what details => s!"Unregistered {what}: {details}"
  | notSubtype discriminator concrete base =>
    s!"Discriminator `{discriminator}` names `{concrete}`, which is not a subtype of `{base}`"
  | notRecordType typeName => s!"Type `{typeName}` is an enum, not a record schema"
  | inheritance typeName =>
    s!"Inheritance chain of `{typeName}` is cyclic or deeper than {inheritanceLimit}"
  | unresolved references => "Unresolved type references: " ++ ", ".intercalate references
  | registryInstalled => "The global schema registry is already installed"
  | badExpression expression =>
    s!"Invalid type expression `{expression}`: Error(Error \x7b input: " ++
      Text.quoted expression ++ ", code: TakeWhile1 \x7d)"
  | expressionRest expression rest =>
    s!"Unexpected characters after type expression `{expression}`: `{rest}`"
  | fileTarget => "A `file` target is persisted by the dispatcher and cannot be decoded"
  | undeclaredField typeName field =>
    s!"Record `{typeName}` sets field `{field}`, which its schema does not declare"
  | wrongRecord concrete declared => s!"`{concrete}` record used where `{declared}` is declared"
  | badAddress address reason => s!"Invalid request URI `{address}`: {reason}"
  | noDialect address =>
    s!"URI `{address}` belongs to neither the `/api` nor the `/cloudapi` dialect"
  | badHeader text => s!"Invalid header value `{text}`"
  | badToken => "Session token contains characters not allowed in a header"
  | badVersion text => s!"Invalid API version `{text}`: expected major.minor"
  | oldVersion text =>
    s!"Invalid API version `{text}`: versions below {oldestMajor}.0 are not supported"
  | badFlag text => s!"Invalid VCD_VERIFY_TLS `{text}`: expected true or false"
  | badTimeout text => s!"Invalid VCD_TIMEOUT_SECS `{text}`: expected whole seconds"
  | badLevel text =>
    s!"Invalid tracing level '{text}'. Valid levels are: error, warn, info, debug, trace"
  | other text => text

/-- The wording of a value of the wrong shape. -/
def ValueFault.message : ValueFault → String
  | wrongJson kind found => s!"Invalid {kind.name}: expected {kind.name}, found {found}"
  | notEncodable kind found =>
    s!"Invalid {kind.name}: cannot encode {found} value as {kind.name}"
  | notFinite x => "Invalid float: " ++ x.render .plain ++ " has no JSON form"
  | badBytes fault => s!"Invalid bytes: {fault.message}"
  | badDate text => s!"Invalid date: `{text}`"
  | badDateTime text => s!"Invalid datetime: `{text}`"
  | unmappedConstant typeName constant =>
    s!"Invalid {typeName} value: constant `{constant}` is not mapped"
  | notEnumText typeName found => s!"Invalid {typeName} value: expected string, found {found}"
  | notObject typeName found => s!"Invalid {typeName}: expected object, found {found}"
  | wrongShape descriptor found => s!"Invalid {descriptor.render}: found {found}"
  | shapeNotEncodable descriptor found =>
    s!"Invalid {descriptor.render}: cannot encode {found} value"
  | wrongVariant expected found => s!"Invalid {expected}: found {found} value"
  | noVariant typeName constant =>
    s!"Invalid {typeName} value: `{constant}` has no matching variant"
  | tooLarge => "Invalid int: number too large to fit in target type"
  | tooSmall => "Invalid int: number too small to fit in target type"
  | missingField typeName field => s!"Missing required field `{field}` of `{typeName}`"
  | badBody => "Invalid JSON response body"
  | undecodedBody =>
    "Invalid response body: the call was not made with a decodable response type"
  | badLinkHeader rest => s!"Invalid Link header: unexpected text `{rest}`"
  | invalid what details => s!"Invalid {what}: {details}"
  | missing what => s!"Missing {what}"

namespace Failure

/-- The wording without the category in front, where the category has one text. -/
def detail : Failure → String
  | setup fault => fault.message
  | io operation path reason => s!"Failed to {operation} {path}: {reason}"
  | value fault => fault.message
  | transport action details => s!"Failed to {action}: {details}"
  | notRegistered typeName => typeName
  | status _ message => message

/-- The wording of a failure. -/
def message (f : Failure) : String :=
  match f with
  | setup _ => "Configuration error: " ++ f.detail
  | io _ _ _ => "I/O error: " ++ f.detail
  | value _ => "Malformed value: " ++ f.detail
  | transport _ _ => "Transport error: " ++ f.detail
  | notRegistered _ => "Type not registered: " ++ f.detail
  | status code _ => s!"HTTP {code}: " ++ f.detail

/-- The name of a failure's category. -/
def category : Failure → String
  | setup _ => "Configuration"
  | io _ _ _ => "Io"
  | value _ => "MalformedValue"
  | transport _ _ => "Transport"
  | notRegistered _ => "TypeNotRegistered"
  | status _ _ => "HttpStatus"

/-- The category and the parts of a failure, texts quoted. -/
def outline (f : Failure) : String :=
  match f with
  | notRegistered typeName =>
    "TypeNotRegistered \x7b type_name: " ++ Text.quoted typeName ++ " \x7d"
  | status code message =>
    s!"HttpStatus \x7b status: {code}, message: " ++ Text.quoted message ++ " \x7d"
  | _ => s!"{f.category}(" ++ Text.quoted f.detail ++ ")"

/-- Whether a failure is a set-up mistake, after which trying again cannot help. -/
def isFatal : Failure → Bool
  | setup _ => true
  | notRegistered _ => true
  | _ => false

/-- Whether a failure comes from the value of a payload. -/
def isMalformed : Failure → Bool
  | value _ => true
  | _ => false

end Failure

/-! ## Trails -/

/-- A place that a failure passed. -/
inductive Place where
  | listIndex (i : Nat)
  | mapKey (key : String)
  /-- A field that is being decoded. -/
  | wireField (typeName field wireKey : String)
  /-- A field that is being encoded, read or written. -/
  | field (typeName field : String)
  | record (typeName : String)
  | request (method address : String)
  | httpStatus (code : Nat)
  | responseType (expression : String)
  | task (href : String)
  | polls (count : UInt32)
  | location (href : String)
  | setting (name : String)
  | majorCode (text : String)
  | minorCode (text : String)
  deriving DecidableEq

/-- The wording of a place. -/
def Place.message : Place → String
  | listIndex i => s!"List index: {i}"
  | mapKey key => s!"Map key: {key}"
  | wireField typeName name wireKey => s!"Field: {typeName}.{name} (wire key `{wireKey}`)"
  | field typeName name => s!"Field: {typeName}.{name}"
  | record typeName => s!"Record type: {typeName}"
  | request method address => s!"Request: {method} {address}"
  | httpStatus code => s!"HTTP status: {code}"
  | responseType expression => s!"Response type: {expression}"
  | task href => s!"Task: {href}"
  | polls count => s!"Polls: {count}"
  | location href => s!"Location: {href}"
  | setting name => s!"Variable: {name}"
  | majorCode text => s!"Major error code: {text}"
  | minorCode text => s!"Minor error code: {text}"

/-- A failure with its trail, the place passed last first. -/
structure Report where
  failure : Failure
  trail : List Place := []
  deriving DecidableEq

/-- The result of something that may fail. -/
abbrev Result (α : Type) := Except Report α

namespace Result

variable {α : Type}

/-- The result of failing. -/
def fail (f : Failure) : Result α := .error ⟨f, []⟩

/-- The result of failing because of a set-up mistake. -/
def failSetup (fault : SetupFault) : Result α := fail (.setup fault)

/-- The result of failing because of a value. -/
def failValue (fault : ValueFault) : Result α := fail (.value fault)

/-- A result whose failure has passed one more place. -/
def passing (place : Place) : Result α → Result α
  | .ok a => .ok a
  | .error r => .error ⟨r.failure, place :: r.trail⟩

end Result

end CloudDirector
