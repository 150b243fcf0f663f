import RotatorProxy.Mihomo.Yaml
import RotatorProxy.Link.Url

/-! `ClashProxyDocument`: the mapping that a link of a complex protocol is turned into. -/
namespace RotatorProxy.Mihomo
open Text Proxy Link

/-- `serde_yaml::to_value` of a list of strings -/
def stringsValue (values : List Str) : YamlValue := .sequence (values.map .string)

structure ClashProxyDocument where
  name : Str
  value : Mapping

namespace ClashProxyDocument

def insertValue (key : Str) (value : YamlValue) (proxy : ClashProxyDocument) : ClashProxyDocument :=
  {proxy with value := proxy.value.insert key value}

def insertString (key value : Str) (proxy : ClashProxyDocument) : ClashProxyDocument :=
  proxy.insertValue key (.string value)

def insertU16 (key : Str) (value : UInt16) (proxy : ClashProxyDocument) : ClashProxyDocument :=
  proxy.insertValue key (.number (.posInt value.toNat))

def insertBool (key : Str) (value : Bool) (proxy : ClashProxyDocument) : ClashProxyDocument :=
  proxy.insertValue key (.bool value)

def insertStrings (key : Str) (values : List Str) (proxy : ClashProxyDocument) : ClashProxyDocument :=
  proxy.insertValue key (stringsValue values)

def insertMapping (key : Str) (mapping : Mapping) (proxy : ClashProxyDocument) : ClashProxyDocument :=
  proxy.insertValue key (.mapping mapping)

/-- Nothing is inserted for a value that is not there. -/
def insertSome (key : Str) : Option Str → ClashProxyDocument → ClashProxyDocument
  | some value,proxy => proxy.insertString key value
  | none,proxy => proxy

def new (name kind server : Str) (port : UInt16) : ClashProxyDocument :=
  (((insertString "name".toList name ⟨name,[]⟩).insertString "type".toList kind).insertString
    "server".toList server).insertU16 "port".toList port

def intoMihomo (kind : Str) (proxy : ClashProxyDocument) : MihomoProxyConfig :=
  ⟨proxy.name,kind,.mapping proxy.value⟩

end ClashProxyDocument

def insertMappingString (key value : Str) (mapping : Mapping) : Mapping := mapping.insert key (.string value)

def insertMappingSome (key : Str) : Option Str → Mapping → Mapping
  | some value,mapping => insertMappingString key value mapping
  | none,mapping => mapping

/-- An `alpn` list without parts is left out. -/
def insertAlpn (alpn : Option Str) (proxy : ClashProxyDocument) : ClashProxyDocument :=
  match alpn.map commaList with
  | some (value::values) => proxy.insertStrings "alpn".toList (value::values)
  | _ => proxy

/-- The transport options of a link, in the mapping that the network has its own. -/
def applyTransportOpts (proxy : ClashProxyDocument) (network : Str) (host path serviceName : Option Str) :
    ClashProxyDocument :=
  if network ∈ ["ws".toList,"websocket".toList] then
    let opts := insertMappingSome "path".toList (nonEmpty path) []
    let opts := match nonEmpty host with
      | some host =>
        Mapping.insert "headers".toList (.mapping (insertMappingString "Host".toList host [])) opts
      | none => opts
    if opts=[] then proxy else proxy.insertMapping "ws-opts".toList opts
  else if network="grpc".toList then
    let serviceName := trimStartMatches '/' ((serviceName.or path).getD [])
    if serviceName=[] then proxy
    else proxy.insertMapping "grpc-opts".toList
      (insertMappingString "grpc-service-name".toList serviceName [])
  else if network ∈ ["h2".toList,"http".toList] then
    let opts := match nonEmpty host with
      | some host => Mapping.insert "host".toList (stringsValue [host]) []
      | none => []
    let opts := match nonEmpty path with
      | some path => Mapping.insert "path".toList (stringsValue [path]) opts
      | none => opts
    if opts=[] then proxy else proxy.insertMapping "h2-opts".toList opts
  else proxy

/-- The network that a link names; `tcp` needs no transport. -/
def networkQuery (url : Url) : Option Str :=
  ((queryParam url "type".toList).or (queryParam url "network".toList)).filter
    (fun value => value ≠ [] && value ≠ "tcp".toList)

def serviceNameQuery (url : Url) : Option Str :=
  (queryParam url "serviceName".toList).or (queryParam url "service_name".toList)

def applyNetworkQuery (proxy : ClashProxyDocument) (url : Url) : ClashProxyDocument :=
  match networkQuery url with
  | none => proxy
  | some network => applyTransportOpts (proxy.insertString "network".toList network) network
      (queryParam url "host".toList) (queryParam url "path".toList) (serviceNameQuery url)

/-- `security`, or `tls` in its place; reality brings its keys along. -/
def applySecurity (proxy : ClashProxyDocument) (url : Url) : ClashProxyDocument :=
  match (queryParam url "security".toList).or (queryParam url "tls".toList) with
  | none => proxy
  | some security =>
    let proxy := if security ∈ ["tls".toList,"reality".toList,"true".toList,"1".toList] then
      proxy.insertBool "tls".toList true else proxy
    let reality := insertMappingSome "short-id".toList (queryParam url "sid".toList)
      (insertMappingSome "public-key".toList (queryParam url "pbk".toList) [])
    if security="reality".toList ∧ reality ≠ [] then proxy.insertMapping "reality-opts".toList reality
    else proxy

def applySecurityQuery (proxy : ClashProxyDocument) (url : Url) : ClashProxyDocument :=
  let proxy := (applySecurity proxy url).insertSome "servername".toList
    (((queryParam url "sni".toList).or (queryParam url "servername".toList)).or (queryParam url "peer".toList))
  let proxy := insertAlpn (queryParam url "alpn".toList) proxy
  let proxy := proxy.insertSome "client-fingerprint".toList
    (((queryParam url "fp".toList).or (queryParam url "fingerprint".toList)).or
      (queryParam url "client-fingerprint".toList))
  let proxy := proxy.insertSome "flow".toList (queryParam url "flow".toList)
  if ((queryParam url "allowInsecure".toList).or (queryParam url "insecure".toList)).any
      (fun value => decide (value="1".toList ∨ value="true".toList)) then
    proxy.insertBool "skip-cert-verify".toList true
  else proxy

end RotatorProxy.Mihomo
