import CloudDirector.Client.Setting

/-!
# Configuration

What a client can be told before it starts.  Everything has a default; what is given must be
valid.  The settings come from variables of the environment or from JSON, where an object names
them and an array lists them in order.
-/

namespace CloudDirector

/-- The settings of a client. -/
structure ClientConfig where
  apiVersion : ApiVersion := .standard
  verifyTls : Bool := true
  timeoutSeconds : Nat := 120
  /-- Where downloads are kept, if not in the directory for temporary files. -/
  downloadDirectory : Option String := none
  deriving DecidableEq

namespace ClientConfig

/-- The time that a request may take, in milliseconds. -/
def timeoutMilliseconds (c : ClientConfig) : Nat := c.timeoutSeconds * 1000

/-! ## Variables -/

/-- The truth value that a text stands for. -/
def flag? (text : String) : Option Bool :=
  let word := Text.asciiLower (Text.trimmed text)
  if ["1", "true", "yes", "on"].contains word then some true
  else if ["0", "false", "no", "off"].contains word then some false
  else none

/-- The configuration of the variables that are set. -/
def ofLookup (lookup : String → Option String) : Result ClientConfig := do
  let config : ClientConfig := {}
  let config ← match lookup "VCD_API_VERSION" with
    | some text => do
      let version ← (ApiVersion.ofString text).passing (.setting "VCD_API_VERSION")
      pure { config with apiVersion := version }
    | none => pure config
  let config ← match lookup "VCD_VERIFY_TLS" with
    | some text => match flag? text with
      | some verifyTls => pure { config with verifyTls }
      | none => Result.failSetup (.badFlag text)
    | none => pure config
  let config ← match lookup "VCD_TIMEOUT_SECS" with
    | some text => match Unsigned.ofChars? Unsigned.limit64 (Text.trim text.toList) with
      | some timeoutSeconds => pure { config with timeoutSeconds }
      | none => Result.failSetup (.badTimeout text)
    | none => pure config
  match lookup "VCD_DOWNLOAD_DIR" with
  | some directory =>
    if (Text.trim directory.toList).isEmpty then return config
    else return { config with downloadDirectory := some directory }
  | none => return config

/-! ## JSON -/

/-- The names of the settings in order. -/
def settingNames : List String := ["api_version", "verify_tls", "timeout_secs", "download_dir"]

/-- A configuration with one more setting; names that are not known are passed over. -/
def withSetting (config : ClientConfig) (name : String) (j : Json) :
    Except SettingFault ClientConfig :=
  match name with
  | "api_version" => do return { config with apiVersion := ← ApiVersion.ofJson j }
  | "verify_tls" =>
    match j with
    | .bool verifyTls => .ok { config with verifyTls }
    | _ => .error (.wrongType j "a boolean")
  | "timeout_secs" =>
    match j with
    | .number (.integer i) =>
      if i.val < 0 then .error (.wrongValue j "u64")
      else .ok { config with timeoutSeconds := i.val.toNat }
    | _ => .error (.wrongType j "u64")
  | "download_dir" =>
    match j with
    | .null => .ok { config with downloadDirectory := none }
    | .string directory => .ok { config with downloadDirectory := some directory }
    | _ => .error (.wrongType j "path string")
  | _ => .ok config

/-- A configuration with more settings, one after another. -/
def withSettings (config : ClientConfig) :
    List (String × Json) → Except SettingFault ClientConfig
  | [] => .ok config
  | (name, j) :: rest => do (← config.withSetting name j).withSettings rest

/-- The configuration that a JSON value gives. -/
def ofJson (j : Json) : Except SettingFault ClientConfig :=
  match j with
  | .object members => withSettings {} members
  | .array items => do
    let config ← withSettings {} (settingNames.zip items)
    if settingNames.length < items.length then throw (.tooMany items.length)
    return config
  | _ => .error (.wrongType j "struct ClientConfig")

/-- A configuration as JSON. -/
def toJson (c : ClientConfig) : Json := .object [
  ("api_version", .string c.apiVersion.render),
  ("verify_tls", .bool c.verifyTls),
  ("timeout_secs", .ofInt c.timeoutSeconds),
  ("download_dir", .ofOption .string c.downloadDirectory)]

end ClientConfig

end CloudDirector
