import RotatorProxy.Link.Native
import RotatorProxy.Mihomo.Yaml

/-! Clash YAML documents: the typed form in which an entry of `proxies` is read, and what becomes of it. -/
namespace RotatorProxy.Mihomo
open Text Proxy Link

/-! What serde reads off a value. A tag is looked through, but for a missing value -/

/-- `String` -/
def readString : YamlValue → Option Str
  | .string value => some value
  | .tagged _ value => readString value
  | _ => none

/-- `bool` -/
def readBool : YamlValue → Option Bool
  | .bool value => some value
  | .tagged _ value => readBool value
  | _ => none

/-- `Option<T>` -/
def readOption {α : Type} (read : YamlValue → Option α) : YamlValue → Option (Option α)
  | .null => some none
  | value => (read value).map some

/-- `deserialize_optional_u16` -/
def deserializeOptionalU16 : YamlValue → Option (Option UInt16) :=
  readOption (fun value => ((valueToU64 value).filter (fun n => n < 2^16)).map UInt16.ofNat)

mutual

/-- A flattened field can hold no tag. -/
def untagged : YamlValue → Bool
  | .tagged _ _ => false
  | .sequence items => untaggedItems items
  | .mapping entries => untaggedEntries entries
  | _ => true

def untaggedItems : List YamlValue → Bool
  | [] => true
  | item::items => untagged item && untaggedItems items

def untaggedEntries : List (YamlValue × YamlValue) → Bool
  | [] => true
  | (key,value)::entries => untagged key && untagged value && untaggedEntries entries

end

/-! Entries -/

/-- The keys in `extra` need not be different: the last one counts. -/
structure ClashProxy where
  name : Option Str
  kind : Str
  server : Option Str
  port : Option UInt16
  username : Option Str
  password : Option Str
  cipher : Option Str
  method : Option Str
  tls : Option Bool
  plugin : Option Str
  extra : List (Str × YamlValue)

/-- The names of the fields; every other key goes into `extra`. -/
def clashFields : List Str :=
  ["name".toList,"type".toList,"server".toList,"port".toList,"username".toList,"password".toList,
    "cipher".toList,"method".toList,"tls".toList,"plugin".toList]

def fieldValues (mapping : Mapping) (field : Str) : List YamlValue :=
  (mapping.filter (fun entry => readString entry.1=some field)).map Prod.snd

/-- A field that may be missing, but not be there twice. -/
def optionalField {α : Type} (read : YamlValue → Option (Option α)) (mapping : Mapping) (field : Str) :
    Option (Option α) :=
  match fieldValues mapping field with
  | [] => some none
  | [value] => read value
  | _ => none

def extraEntry (entry : YamlValue × YamlValue) : Option (Option (Str × YamlValue)) :=
  match readString entry.1 with
  | none => none
  | some key =>
    if key ∈ clashFields then some none
    else if untagged entry.2 then some (some (key,entry.2)) else none

/-- `serde_yaml::from_value` -/
def clashProxyFromValue (value : YamlValue) : Option ClashProxy := do
  let mapping ← asMapping value
  let extra ← mapping.mapM extraEntry
  let name ← optionalField (readOption readString) mapping "name".toList
  let kind ← (← optionalField (fun value => (readString value).map some) mapping "type".toList)
  let server ← optionalField (readOption readString) mapping "server".toList
  let port ← optionalField deserializeOptionalU16 mapping "port".toList
  let username ← optionalField (readOption readString) mapping "username".toList
  let password ← optionalField (readOption readString) mapping "password".toList
  let cipher ← optionalField (readOption readString) mapping "cipher".toList
  let method ← optionalField (readOption readString) mapping "method".toList
  let tls ← optionalField (readOption readBool) mapping "tls".toList
  let plugin ← optionalField (readOption readString) mapping "plugin".toList
  return ⟨name,kind,server,port,username,password,cipher,method,tls,plugin,extra.filterMap id⟩

/-- The fields of the typed form, each read on its own. -/
lemma clashProxyFromValue_eq_some_iff {mapping : Mapping} {entry : ClashProxy} :
    clashProxyFromValue (.mapping mapping)=some entry ↔
    (∃ extra, mapping.mapM extraEntry=some extra ∧ entry.extra=extra.filterMap id) ∧
    optionalField (readOption readString) mapping "name".toList=some entry.name ∧
    optionalField (fun value => (readString value).map some) mapping "type".toList=some (some entry.kind) ∧
    optionalField (readOption readString) mapping "server".toList=some entry.server ∧
    optionalField deserializeOptionalU16 mapping "port".toList=some entry.port ∧
    optionalField (readOption readString) mapping "username".toList=some entry.username ∧
    optionalField (readOption readString) mapping "password".toList=some entry.password ∧
    optionalField (readOption readString) mapping "cipher".toList=some entry.cipher ∧
    optionalField (readOption readString) mapping "method".toList=some entry.method ∧
    optionalField (readOption readBool) mapping "tls".toList=some entry.tls ∧
    optionalField (readOption readString) mapping "plugin".toList=some entry.plugin := by
  unfold clashProxyFromValue
  constructor
  · intro h
    change (mapping.mapM extraEntry).bind _=_ at h
    obtain ⟨extra,hextra,h⟩ := Option.bind_eq_some_iff.mp h
    obtain ⟨name,hname,h⟩ := Option.bind_eq_some_iff.mp h
    obtain ⟨_,hkind,h⟩ := Option.bind_eq_some_iff.mp h
    obtain ⟨kind,hlift,h⟩ := Option.bind_eq_some_iff.mp h
    rw [hlift] at hkind
    obtain ⟨server,hserver,h⟩ := Option.bind_eq_some_iff.mp h
    obtain ⟨port,hport,h⟩ := Option.bind_eq_some_iff.mp h
    obtain ⟨username,husername,h⟩ := Option.bind_eq_some_iff.mp h
    obtain ⟨password,hpassword,h⟩ := Option.bind_eq_some_iff.mp h
    obtain ⟨cipher,hcipher,h⟩ := Option.bind_eq_some_iff.mp h
    obtain ⟨method,hmethod,h⟩ := Option.bind_eq_some_iff.mp h
    obtain ⟨tls,htls,h⟩ := Option.bind_eq_some_iff.mp h
    obtain ⟨plugin,hplugin,h⟩ := Option.bind_eq_some_iff.mp h
    obtain rfl := Option.some.inj h
    exact ⟨⟨extra,hextra,rfl⟩,hname,hkind,hserver,hport,husername,hpassword,hcipher,hmethod,htls,hplugin⟩
  · rintro ⟨⟨extra,hextra,heq⟩,hname,hkind,hserver,hport,husername,hpassword,hcipher,hmethod,htls,hplugin⟩
    refine Option.bind_eq_some_iff.mpr ⟨mapping,rfl,Option.bind_eq_some_iff.mpr ⟨extra,hextra,
      Option.bind_eq_some_iff.mpr ⟨_,hname,Option.bind_eq_some_iff.mpr ⟨_,hkind,
      Option.bind_eq_some_iff.mpr ⟨_,rfl,Option.bind_eq_some_iff.mpr ⟨_,hserver,
      Option.bind_eq_some_iff.mpr ⟨_,hport,Option.bind_eq_some_iff.mpr ⟨_,husername,
      Option.bind_eq_some_iff.mpr ⟨_,hpassword,Option.bind_eq_some_iff.mpr ⟨_,hcipher,
      Option.bind_eq_some_iff.mpr ⟨_,hmethod,Option.bind_eq_some_iff.mpr ⟨_,htls,
      Option.bind_eq_some_iff.mpr ⟨_,hplugin,?_⟩⟩⟩⟩⟩⟩⟩⟩⟩⟩⟩⟩⟩
    rw [← heq]
    rfl

def ClashProxy.getExtra (entry : ClashProxy) (key : Str) : Option YamlValue :=
  (entry.extra.reverse.find? (fun pair => pair.1=key)).map Prod.snd

/-! Decisions -/

inductive ClashProxyDecision
  | native (node : ProxyNode)
  | mihomo
  | skip

def isMihomoOnlyClashType (kind : Str) : Bool :=
  decide (kind ∈ ["vmess".toList,"vless".toList,"trojan".toList,"ssr".toList,"hysteria".toList,
    "hysteria2".toList,"hy2".toList,"tuic".toList,"wireguard".toList,"wg".toList,"anytls".toList,
    "mieru".toList,"snell".toList,"ssh".toList])

def isClashGroupOrPolicyType (kind : Str) : Bool :=
  decide (kind ∈ ["select".toList,"url-test".toList,"fallback".toList,"load-balance".toList,"relay".toList,
    "direct".toList,"reject".toList,"reject-drop".toList,"pass".toList,"dns".toList,"compatible".toList])

def credentialsFromParts (username password : Option Str) : Option Credentials :=
  (nonEmpty username).map (fun username => ⟨username,password⟩)

def clashServerPort (entry : ClashProxy) (name : Str) : Except Str (Str × UInt16) :=
  match entry.server with
  | none => .error ("代理 ".toList++name++" 缺少 server".toList)
  | some server =>
    match entry.port with
    | none => .error ("代理 ".toList++name++" 缺少 port".toList)
    | some port => .ok (server,port)

def clashStringExtra (entry : ClashProxy) (keys : List Str) : Option Str :=
  keys.findSome? (fun key => (entry.getExtra key).bind valueToString)

def clashBoolExtra (entry : ClashProxy) (keys : List Str) : Option Bool :=
  keys.findSome? (fun key => (entry.getExtra key).bind valueToBool)

/-- The text of a value, or that it is missing. -/
def clashRequired (value : Option Str) (name field : Str) : Except Str Str :=
  match value with
  | some value => .ok value
  | none => .error ("Shadowsocks 代理 ".toList++name++" 缺少 ".toList++field)

variable (env : Externals)

def clashHttp (entry : ClashProxy) (name : Str) : Except Str ProxyNode := do
  let (server,port) ← clashServerPort entry name
  let addr ← HostPort.new server port
  let auth := credentialsFromParts entry.username entry.password
  if entry.tls.getD false then
    return .https addr auth (clashStringExtra entry ["sni".toList,"servername".toList])
      ((clashBoolExtra entry ["skip-cert-verify".toList,"allow-insecure".toList,"insecure".toList]).getD false)
  else return .http addr auth

def clashSocks5 (entry : ClashProxy) (name : Str) : Except Str ProxyNode := do
  let (server,port) ← clashServerPort entry name
  let addr ← HostPort.new server port
  return .socks5 addr (credentialsFromParts entry.username entry.password) true

def clashShadowsocks (entry : ClashProxy) (name : Str) : Except Str ProxyNode := do
  let (host,port) ← clashServerPort entry name
  let cipher ← clashRequired (entry.cipher.or entry.method) name "cipher".toList
  let password ← clashRequired entry.password name "password".toList
  match env.cipherKindFromStr (normalizeSsCipher cipher) with
  | none => .error ("无效的 Shadowsocks cipher ".toList++cipher++['：'])
  | some kind =>
    match env.serverConfigNew host port password kind with
    | some server => .ok (.shadowsocks server name)
    | none => .error foreignError

def clashEntryToProxy (entry : ClashProxy) : Except Str ClashProxyDecision :=
  let kind := toAsciiLowercase entry.kind
  let name := entry.name.getD kind
  if isClashGroupOrPolicyType kind then .ok .skip
  else if isMihomoOnlyClashType kind then .ok .mihomo
  else if kind="http".toList then (clashHttp entry name).map .native
  else if kind ∈ ["socks5".toList,"socks".toList] then (clashSocks5 entry name).map .native
  else if kind ∈ ["ss".toList,"shadowsocks".toList] then
    if entry.plugin.isSome then .ok .mihomo else (clashShadowsocks env entry name).map .native
  else if entry.server.isSome || !entry.extra.isEmpty then .ok .mihomo
  else .ok .skip

lemma clashEntryToProxy_http {ext : Externals} {entry : ClashProxy} (h : toAsciiLowercase entry.kind="http".toList) :
    clashEntryToProxy ext entry=
      (clashHttp entry (entry.name.getD (toAsciiLowercase entry.kind))).map .native := by
  unfold clashEntryToProxy
  dsimp only
  rw [h]
  rfl

def clashEntryToMihomo (entry : ClashProxy) (value : YamlValue) : MihomoProxyConfig :=
  let kind := toAsciiLowercase entry.kind
  ⟨entry.name.getD (kind++"-node".toList),kind,value⟩

/-! Documents -/

structure LoadedProxySet where
  native : List ProxyNode
  mihomo : List MihomoProxyConfig

namespace LoadedProxySet

def empty : LoadedProxySet := ⟨[],[]⟩

def extend (proxies other : LoadedProxySet) : LoadedProxySet :=
  ⟨proxies.native++other.native,proxies.mihomo++other.mihomo⟩

end LoadedProxySet

/-- `Value::get` -/
def valueGet (value : YamlValue) (key : Str) : Option YamlValue := (asMapping value).bind (fun m => m.get key)

/-- `Value::as_sequence` -/
def asSequence : YamlValue → Option (List YamlValue)
  | .sequence items => some items
  | .tagged _ value => asSequence value
  | _ => none

def rawClashProxyValues (root : YamlValue) : List YamlValue :=
  ((valueGet root "proxies".toList).bind asSequence).getD []

/-- `Value::as_str` is `readString`. -/
def clashProviderUrl (env : LinkExternals) (provider : YamlValue) : Option Str :=
  (((valueGet provider "url".toList).bind readString).map trim).filter
    (fun url => url ≠ [] && isSubscriptionUrl env url)

def clashProxyProviderUrls (env : LinkExternals) (root : YamlValue) : List Str :=
  match (valueGet root "proxy-providers".toList).bind asMapping with
  | none => []
  | some providers => providers.filterMap (fun provider => clashProviderUrl env provider.2)

/-- What one entry adds: nothing if it cannot be read, or must not be used. -/
def clashLoaded (value : YamlValue) : LoadedProxySet :=
  match clashProxyFromValue value with
  | none => .empty
  | some entry =>
    match clashEntryToProxy env entry with
    | .ok (.native proxy) => ⟨[proxy],[]⟩
    | .ok .mihomo => ⟨[],[clashEntryToMihomo entry value]⟩
    | .ok .skip | .error _ => .empty

lemma clashLoaded_native_iff {ext : Externals} {node : ProxyNode} {value : YamlValue} :
    (clashLoaded ext value).native=[node] ↔
    ∃ entry, clashProxyFromValue value=some entry ∧ clashEntryToProxy ext entry = .ok (.native node) := by
  rw [clashLoaded]
  cases clashProxyFromValue value with
  | none => simp [LoadedProxySet.empty]
  | some entry =>
    simp only [Option.some.injEq,exists_eq_left']
    cases clashEntryToProxy ext entry with
    | error e => simp [LoadedProxySet.empty]
    | ok decision => cases decision <;> simp [LoadedProxySet.empty]

structure ClashYamlParse where
  proxies : LoadedProxySet
  providerUrls : List Str

/-- `parse_clash_yaml_document` on the YAML that the text holds -/
def parseClashYamlDocument (env : LinkExternals) (root : YamlValue) : Option ClashYamlParse :=
  if (rawClashProxyValues root).length=0 ∧ clashProxyProviderUrls env root=[] then none
  else some ⟨(rawClashProxyValues root).foldl (fun proxies value =>
    proxies.extend (clashLoaded env.toExternals value)) .empty,clashProxyProviderUrls env root⟩

end RotatorProxy.Mihomo
