import SelectGraph.Literal.Basic
import SelectGraph.Time.Duration
import SelectGraph.Url.Host

/-!
# Addresses of databases

The address of a database has the form `user:password@network(address)/database?option=value&…`.
Everything before the slash may be left out. Options that a connection knows are checked when an
address is read and written in a fixed order; all others are kept and written after them by name.
-/

namespace SelectGraph.Database

inductive OptionKind where
  | switch (standard : Bool)
  | charsets
  | collation
  | escaped
  | encryption
  | zone
  | duration
  | size
  deriving DecidableEq

abbrev Options := List (String × String)

structure Address where
  user : String := ""
  password : String := ""
  network : String := ""
  address : String := ""
  database : String := ""
  options : Options := []
  deriving DecidableEq

inductive AddressFault where
  | noSlash
  | openAddress
  | unescapedAddress
  | database (name : String)
  | option (name value : String)
  | network (name : String)
  | encryption (name : String)
  | serverKey (name : String)
  | collation (name : String)
  deriving DecidableEq

def AddressFault.message : AddressFault → String
  | .noSlash => "invalid DSN: missing the slash separating the database name"
  | .openAddress => "invalid DSN: network address not terminated (missing closing brace)"
  | .unescapedAddress => "invalid DSN: did you forget to escape a param value?"
  | .database name => "invalid dbname \"" ++ name ++ "\""
  | .option name value => "invalid value for " ++ name ++ ": " ++ value
  | .network name => "default addr for network '" ++ name ++ "' unknown"
  | .encryption name => "invalid value / unknown config name: " ++ name
  | .serverKey name => "invalid value / unknown server pub key name: " ++ name
  | .collation _ => "invalid DSN: interpolateParams can not be used with unsafe collations"

namespace Address

/-- The options that a connection knows, in the order in which they are written. -/
def known : List (String × OptionKind) :=
  [("allowAllFiles", .switch false), ("allowCleartextPasswords", .switch false),
   ("allowFallbackToPlaintext", .switch false), ("allowNativePasswords", .switch true),
   ("allowOldPasswords", .switch false), ("checkConnLiveness", .switch true),
   ("clientFoundRows", .switch false), ("charset", .charsets), ("collation", .collation),
   ("columnsWithAlias", .switch false), ("connectionAttributes", .escaped),
   ("compress", .switch false), ("interpolateParams", .switch false), ("loc", .zone),
   ("multiStatements", .switch false), ("parseTime", .switch false), ("timeTruncate", .duration),
   ("readTimeout", .duration), ("rejectReadOnly", .switch false), ("serverPubKey", .escaped),
   ("timeout", .duration), ("tls", .encryption), ("writeTimeout", .duration),
   ("maxAllowedPacket", .size)]

def standardPacket : Int := 67108864

/-- The truth value that a switch is written as. -/
def switch? : String → Option Bool
  | "1" | "true" | "TRUE" | "True" => some true
  | "0" | "false" | "FALSE" | "False" => some false
  | _ => none

def decodeValue? (value : String) : Option String :=
  (Url.decodeBytes true value.toList).toOption.map Url.textOf

/-- Whether a time zone has a name of the usual form. -/
def isZone (name : String) : Bool :=
  ["", "UTC", "Local", "GMT", "EST", "MST", "HST", "CET", "EET", "MET", "WET", "Japan", "Zulu"].contains name ||
    ["Africa/", "America/", "Antarctica/", "Arctic/", "Asia/", "Atlantic/", "Australia/", "Etc/", "Europe/",
      "Indian/", "Pacific/", "US/"].any fun region =>
        (Text.after? name region).any fun place => !place.isEmpty

def switchText (value : Bool) : String :=
  if value then "true" else "false"

/-- The value of an option in its plain form, if it fits the option. -/
def readOption? (kind : OptionKind) (value : String) : Option String :=
  match kind with
  | .switch _ => (switch? value).map switchText
  | .charsets | .collation => some value
  | .escaped => decodeValue? value
  | .encryption =>
    match switch? value with
    | some isOn => some (switchText isOn)
    | none => decodeValue? value
  | .zone => (decodeValue? value).bind fun name => if isZone name then some name else none
  | .duration => (Duration.read value).toOption.map Duration.toText
  | .size => (Literal.signed? value).map toString

def set (options : Options) (name value : String) : Options :=
  options.filter (·.1 != name) ++ [(name, value)]

/-- The plain value of an option, empty when it is not given. -/
def option (address : Address) (name : String) : String :=
  (address.options.lookup name).getD ""

/-- Read one `name=value` part; a part without a value is passed over. -/
def addPart (options : Options) (part : String) : Except AddressFault Options :=
  match Text.cut? part "=" with
  | none => .ok options
  | some (name, value) =>
    match readOption? ((known.lookup name).getD .escaped) value with
    | some plain => .ok (set options name plain)
    | none => .error (.option name value)

def readPlace (text : String) : Except AddressFault Address := do
  let (login, place) := match Text.cutLast? text '@' with
    | some (login, place) => (login, place)
    | none => ("", text)
  let (user, password) := (Text.cut? login ":").getD (login, "")
  match Text.cut? place "(" with
  | none => return { user, password, network := place }
  | some (network, rest) =>
    match Text.before? rest ")" with
    | some address => return { user, password, network, address }
    | none => throw (if rest.toList.contains ')' then .unescapedAddress else .openAddress)

/-- Collations in which a quote can be the second half of a character. -/
def ambiguousCollations : List String :=
  ["big5_chinese_ci", "sjis_japanese_ci", "gbk_chinese_ci", "big5_bin", "gb2312_bin", "gbk_bin", "sjis_bin",
   "cp932_japanese_ci", "cp932_bin", "gb18030_chinese_ci", "gb18030_bin", "gb18030_unicode_520_ci"]

/-- Fill in the network and the address that were left out. Besides the usual ones, a connection may
be secured in the ways that have been set up under the names given. -/
def complete (encryptions : List String) (address : Address) : Except AddressFault Address := do
  if address.option "interpolateParams" == "true" &&
      ambiguousCollations.contains (address.option "collation") then
    throw (.collation (address.option "collation"))
  let network := if address.network.isEmpty then "tcp" else address.network
  let place ←
    if address.address.isEmpty then
      match network with
      | "tcp" => pure "127.0.0.1:3306"
      | "unix" => pure "/tmp/mysql.sock"
      | _ => throw (.network network)
    else if network == "tcp" && (Net.splitHostPort? address.address).isNone then
      pure (Net.joinHostPort address.address "3306")
    else pure address.address
  let encryption := address.option "tls"
  if !(["", "false", "true", "skip-verify", "preferred"] ++ encryptions).contains encryption then
    throw (.encryption encryption)
  let key := address.option "serverPubKey"
  if !key.isEmpty then throw (.serverKey key)
  let options := if encryption == "preferred" then set address.options "allowFallbackToPlaintext" "true"
    else address.options
  return { address with network, address := place, options }

/-- Read the address of a database, where connections may be secured in the ways given. -/
def read (text : String) (encryptions : List String := []) : Except AddressFault Address := do
  match Text.cutLast? text '/' with
  | none => if text.isEmpty then complete encryptions {} else throw .noSlash
  | some (front, back) =>
    let place ← if front.isEmpty then pure {} else readPlace front
    let (written, parts) := (Text.cut? back "?").getD (back, "")
    let options ← (Text.split parts '&').foldlM addPart []
    match (Url.decodeBytes false written.toList).toOption with
    | none => throw (.database written)
    | some bytes => complete encryptions { place with database := Url.textOf bytes, options }

/-- The text of a known option, left out when it says what holds anyway. -/
def writeOption? (kind : OptionKind) (value : String) : Option String :=
  match kind with
  | .switch standard => if value == switchText standard then none else some value
  | .charsets => some value
  | .collation => if value.isEmpty then none else some value
  | .escaped | .encryption => if value.isEmpty then none else some (Url.encodeValue value)
  | .zone => if value.isEmpty || value == "UTC" then none else some (Url.encodeValue value)
  | .duration =>
    match Duration.read value with
    | .ok duration => if 0 < duration.nanoseconds then some value else none
    | .error _ => none
  | .size => if value == toString standardPacket then none else some value

/-- The options as they are written: the known ones in their order, then the others by name. -/
def writtenOptions (options : Options) : List (String × String) :=
  let first := known.filterMap fun (name, kind) => do
    return (name, ← writeOption? kind (← options.lookup name))
  let others := (options.filter fun entry => (known.lookup entry.1).isNone).mergeSort
    fun left right => left.1 ≤ right.1
  first ++ others.map fun (name, value) => (name, Url.encodeValue value)

def write (address : Address) : String :=
  let login :=
    if address.user.isEmpty then ""
    else if address.password.isEmpty then address.user ++ "@"
    else address.user ++ ":" ++ address.password ++ "@"
  let place :=
    if address.network.isEmpty then ""
    else if address.address.isEmpty then address.network
    else address.network ++ "(" ++ address.address ++ ")"
  let options := (writtenOptions address.options).map fun (name, value) => name ++ "=" ++ value
  login ++ place ++ "/" ++ Url.encodeSegment address.database ++
    if options.isEmpty then "" else "?" ++ Text.join "&" options

end Address

end SelectGraph.Database
