import MissionControl.Bus.Properties

/-!
# Account properties

An account object is known by its path under the account manager. Its state comes from two
interfaces: the account interface (names, flags, connection status and connection parameters)
and the avatar interface (image data and its type).

Applying a property map overlays only the keys it holds with a value of the expected type; other
keys keep their value. The avatar is a property holding a generic list of exactly two values,
image bytes and a type string, each taken only when of that type.
-/

namespace MissionControl

namespace Account

/-- The account manager's bus name. -/
def managerName : String := "org.freedesktop.Telepathy.AccountManager"

/-- The account interface. -/
def accountInterface : String := "org.freedesktop.Telepathy.Account"

/-- The avatar interface of an account. -/
def avatarInterface : String := accountInterface ++ ".Interface.Avatar"

/-- The object type under which account interfaces are registered. -/
def objectType : String := "account"

/-- The common beginning of every account path. -/
def pathBase : String := "/org/freedesktop/Telepathy/Account/"

/-- The member of the signal announcing changed account properties. -/
def changedMember : String := "AccountPropertyChanged"

/-- The member of the signal announcing a changed avatar. -/
def avatarChangedMember : String := "AvatarChanged"

/-- The error of a removed account. -/
def removedMessage : String := "account: removed"

/-- The account interface's state. -/
structure Props where
  displayName : String := ""
  icon : String := ""
  nickname : String := ""
  normalizedName : String := ""
  valid : Bool := false
  enabled : Bool := false
  connectionStatus : Nat := 0
  parameters : Properties := []
  deriving Inhabited

/-- The avatar interface's state. -/
structure Avatar where
  data : List UInt8 := []
  mime : String := ""
  deriving Inhabited

/-- The properties overlaid with the keys of `p` that have the expected type. -/
def Props.apply (a : Props) (p : Properties) : Props :=
  { displayName := (p.string? "DisplayName").getD a.displayName
    icon := (p.string? "Icon").getD a.icon
    nickname := (p.string? "Nickname").getD a.nickname
    normalizedName := (p.string? "NormalizedName").getD a.normalizedName
    valid := (p.bool? "Valid").getD a.valid
    enabled := (p.bool? "Enabled").getD a.enabled
    connectionStatus := (p.uint32? "ConnectionStatus").getD a.connectionStatus
    parameters := ((p.map? "Parameters").map (·.getD [])).getD a.parameters }

/-- The avatar overlaid with the image and type held by the `Avatar` property. -/
def Avatar.apply (a : Avatar) (p : Properties) : Avatar :=
  match p.get? "Avatar" with
  | some (.list [d, m]) =>
    { data := match d with
        | .bytes bs => bs
        | _ => a.data
      mime := match m with
        | .str s => s
        | _ => a.mime }
  | _ => a

/-- An account's name relative to the account path base. -/
def uniqueName (path : String) : String :=
  if path.startsWith pathBase then String.ofList (path.toList.drop pathBase.length) else path

end Account

end MissionControl
