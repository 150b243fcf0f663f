import RotatorProxy.Config.AppConfig
import RotatorProxy.Library.Outcome
import RotatorProxy.Link.Url
import RotatorProxy.Text.Literals

/-! The target of the health checks, made of a configuration each time that one is needed. The validation has looked at
the same fields when the program started. -/
namespace RotatorProxy.Health
open Text Proxy Config Link Library

/-- The crates behind the configuration and the target. -/
structure TargetExternals where
  parseUrl : Str → Option Url
  isDailyTime : Str → Bool
  maxPermits : ℕ
  /-- `ServerName::try_from` -/
  isServerName : Str → Bool
  /-- `with_safe_default_protocol_versions` on the provider of the program -/
  safeDefaultProtocolVersions : Except Str Unit

/-- What the validation sees of them. -/
def TargetExternals.config (ext : TargetExternals) : ConfigExternals where
  parseUrl s := (ext.parseUrl s).map (fun url => ⟨url.scheme,url.hostStr⟩)
  isDailyTime := ext.isDailyTime
  maxPermits := ext.maxPermits

/-- The configuration with a field that no validation reads. -/
structure HealthConfig extends AppConfig where
  healthCheckTlsSkipVerify : Bool

inductive HealthCheckScheme
  | http
  | https
  deriving DecidableEq

/-- A connector is which verifier it has. -/
structure HealthCheckTls where
  skipVerify : Bool
  serverName : Str

structure HealthCheckTarget where
  scheme : HealthCheckScheme
  target : TargetAddr
  request : Bytes
  display : Str
  expectedStatus : List StatusRange
  expectedDisplay : Str
  tls : Option HealthCheckTls

variable (ext : TargetExternals)

def HealthCheckTls.new (host : Str) (skipVerify : Bool) : Except Str HealthCheckTls :=
  if ext.isServerName host then
    match ext.safeDefaultProtocolVersions with
    | .ok () => .ok ⟨skipVerify,host⟩
    | .error _ => .error "构建 HTTPS 测活 TLS 连接器失败".toList
  else .error ("health_check_url 的 TLS server name 无效：".toList++host)

def healthRequest (path userAgent : Str) (target : TargetAddr) : Bytes :=
  utf8 ("GET ".toList++path++" HTTP/1.1\r\nHost: ".toList++target.display++"\r\nUser-Agent: ".toList++userAgent++
    "\r\nConnection: close\r\n\r\n".toList)

namespace HealthCheckTarget

def schemeFromUrl (url : Url) : Except Str HealthCheckScheme :=
  if url.scheme="http".toList then .ok .http
  else if url.scheme="https".toList then .ok .https
  else .error "health_check_url 只支持 http:// 或 https:// URL".toList

def hostFromUrl (url : Url) : Except Str Str :=
  match url.hostStr with
  | some host => .ok host
  | none => .error "health_check_url 必须包含 host".toList

def portFromUrl (url : Url) : Except Str UInt16 :=
  match url.portOrKnownDefault with
  | some port => .ok port
  | none => .error "health_check_url 缺少端口".toList

def pathFromUrl (url : Url) : Str :=
  (if url.path=[] then ['/'] else url.path)++(url.query.map ('?'::·)).getD []

def tlsFromScheme (host : Str) (skipVerify : Bool) : HealthCheckScheme → Except Str (Option HealthCheckTls)
  | .http => .ok none
  | .https => (HealthCheckTls.new ext host skipVerify).map some

def fromUrl (config : HealthConfig) (url : Url) : Except Str HealthCheckTarget :=
  (schemeFromUrl url).bind fun scheme => (hostFromUrl url).bind fun host => (portFromUrl url).bind fun port =>
    (TargetAddr.new host port).bind fun target =>
    (tlsFromScheme ext host config.healthCheckTlsSkipVerify scheme).bind fun tls =>
    (parseHealthCheckExpectedStatus config.healthCheckExpectedStatus).map fun expectedStatus =>
      { scheme := scheme
        target := target
        request := healthRequest (pathFromUrl url) config.subscriptionUserAgent target
        display := config.healthCheckUrl
        expectedStatus := expectedStatus
        expectedDisplay := config.healthCheckExpectedStatus
        tls := tls }

def fromConfig (config : HealthConfig) : Except Str HealthCheckTarget :=
  match ext.parseUrl config.healthCheckUrl with
  | none => .error ("health_check_url 无效：".toList++config.healthCheckUrl)
  | some url => fromUrl ext config url

end HealthCheckTarget

/-! What an accepted configuration has -/

lemma validateHealthCheck_ok {ext : ConfigExternals} {config : AppConfig} (h : config.validate ext = .ok ())
    (henabled : config.healthCheckEnabled = true) : config.validateHealthCheck ext = .ok () := by
  unfold AppConfig.validate at h
  simp only [bind,bind_eq_ok] at h
  obtain ⟨_,-,_,-,_,-,_,-,_,-,h⟩ := h
  cases hproxy : config.subscriptionProxy with
  | none =>
    simp only [hproxy,henabled,if_true] at h
    obtain ⟨_,hcheck,-⟩ := bind_eq_ok.mp h
    exact hcheck
  | some proxy =>
    simp only [hproxy,henabled,if_true] at h
    obtain ⟨_,-,h⟩ := bind_eq_ok.mp h
    obtain ⟨_,hcheck,-⟩ := bind_eq_ok.mp h
    exact hcheck

/-- The URL and the status list of an accepted configuration. -/
lemma validate_target {ext : TargetExternals} {config : HealthConfig}
    (h : config.validate ext.config = .ok ()) (henabled : config.healthCheckEnabled = true) :
    ∃ url host ranges, ext.parseUrl config.healthCheckUrl=some url ∧ url.hostStr=some host ∧
      (url.scheme="http".toList ∨ url.scheme="https".toList) ∧
      parseHealthCheckExpectedStatus config.healthCheckExpectedStatus = .ok ranges := by
  have hcheck := validateHealthCheck_ok h henabled
  unfold AppConfig.validateHealthCheck TargetExternals.config at hcheck
  cases hurl : ext.parseUrl config.healthCheckUrl with
  | none =>
    simp only [hurl] at hcheck
    cases hcheck
  | some url =>
    simp only [hurl,Option.map_some,bind,bind_eq_ok,bailIf_eq_ok,decide_eq_false_iff_not] at hcheck
    obtain ⟨_,hscheme,_,hhost,ranges,hranges,-⟩ := hcheck
    cases hhostStr : url.hostStr with
    | none =>
      rw [hhostStr] at hhost
      cases hhost
    | some host => exact ⟨url,host,ranges,rfl,hhostStr,by tauto,hranges⟩

/-! And what its target asks for -/

/-- The crates do as they are documented: a URL of the web has a port, and a host without blanks, and the provider has
cipher suites for the protocol versions. -/
structure TargetExternals.Documented (ext : TargetExternals) : Prop where
  host : ∀ text url host, ext.parseUrl text=some url → url.scheme="http".toList ∨ url.scheme="https".toList →
    url.hostStr=some host → trim host ≠ []
  port : ∀ text url, ext.parseUrl text=some url → url.scheme="http".toList ∨ url.scheme="https".toList →
    ∃ port, url.portOrKnownDefault=some port
  versions : ext.safeDefaultProtocolVersions = .ok ()

/-- Over TLS the host can be the name of a server. -/
def HealthConfig.TargetFits (ext : TargetExternals) (config : HealthConfig) : Prop :=
  ∀ url host, ext.parseUrl config.healthCheckUrl=some url → url.scheme="https".toList → url.hostStr=some host →
    ext.isServerName host = true

/-- The characters of DNS names. -/
def IsNameChar (c : Char) : Prop := c.isAlphanum = true ∨ c= '-' ∨ c= '_' ∨ c= '.'

instance : DecidablePred IsNameChar := fun _ => inferInstanceAs (Decidable (_ ∨ _))

/-- The grammar of server names: valid DNS names, and addresses without brackets. -/
structure TargetExternals.ReadsNames (ext : TargetExternals) (ValidName : Str → Prop) : Prop where
  serverName : ∀ host, ext.isServerName host = true ↔ ValidName host ∨ (parseIpAddr host).isSome = true
  chars : ∀ host, ValidName host → ∀ c ∈ host, IsNameChar c

section
variable {ext : TargetExternals} {config : HealthConfig}

/-- A host with a bracket, or with any other character that neither a name nor an address has, is none. -/
lemma TargetExternals.ReadsNames.refuses {ValidName : Str → Prop} (h : ext.ReadsNames ValidName) {host : Str} {c : Char}
    (hc : c ∈ host) (hname : ¬IsNameChar c) (hliteral : ¬IsLiteralChar c) : ext.isServerName host = false := by
  rw [Bool.eq_false_iff]
  intro haccepts
  obtain hvalid | haddress := (h.serverName host).mp haccepts
  · exact hname (h.chars host hvalid c hc)
  · obtain ⟨ip,hip⟩ := Option.isSome_iff_exists.mp haddress
    exact hliteral (parseIpAddr_chars hip c hc)

lemma bracket_refused {ValidName : Str → Prop} (h : ext.ReadsNames ValidName) {host : Str} (hbracket : '[' ∈ host) :
    ext.isServerName host = false := h.refuses hbracket (by decide) (by decide)

lemma tls_ok_iff (hext : ext.Documented) (host : Str) (skipVerify : Bool) :
    (∃ tls, HealthCheckTarget.tlsFromScheme ext host skipVerify .https = .ok tls) ↔ ext.isServerName host = true := by
  unfold HealthCheckTarget.tlsFromScheme HealthCheckTls.new
  rw [hext.versions]
  split_ifs with hname
  · exact iff_of_true ⟨_,rfl⟩ hname
  · refine iff_of_false ?_ hname
    rintro ⟨tls,htls⟩
    cases htls

/-- All but the TLS name is there. -/
lemma fromUrl_ok_iff {url : Url} {scheme : HealthCheckScheme} {host : Str} {port : UInt16} {target : TargetAddr}
    {ranges : List StatusRange} (hscheme : HealthCheckTarget.schemeFromUrl url = .ok scheme)
    (hhost : url.hostStr=some host) (hport : url.portOrKnownDefault=some port)
    (haddr : TargetAddr.new host port = .ok target)
    (hranges : parseHealthCheckExpectedStatus config.healthCheckExpectedStatus = .ok ranges) :
    (∃ target, HealthCheckTarget.fromUrl ext config url = .ok target) ↔
      ∃ tls, HealthCheckTarget.tlsFromScheme ext host config.healthCheckTlsSkipVerify scheme = .ok tls := by
  unfold HealthCheckTarget.fromUrl HealthCheckTarget.hostFromUrl HealthCheckTarget.portFromUrl
  rw [hscheme,hhost,hport]
  dsimp only [Except.bind]
  rw [haddr,hranges]
  cases HealthCheckTarget.tlsFromScheme ext host config.healthCheckTlsSkipVerify scheme with
  | error err => exact iff_of_false nofun nofun
  | ok tls => exact iff_of_true ⟨_,rfl⟩ ⟨_,rfl⟩

/-- The URL of a configuration is only one. -/
lemma HealthConfig.targetFits_iff {url : Url} {host : Str} (hurl : ext.parseUrl config.healthCheckUrl=some url)
    (hhost : url.hostStr=some host) :
    config.TargetFits ext ↔ (url.scheme="https".toList → ext.isServerName host = true) := by
  unfold TargetFits
  rw [hurl]
  constructor
  · exact fun hfits hhttps => hfits url host rfl hhttps hhost
  · rintro hname _ host' ⟨⟩ hhttps hhost'
    rw [hhost] at hhost'
    cases hhost'
    exact hname hhttps

/-- For a configuration that was accepted the target can be made if and only if it fits. -/
theorem fromConfig_ok_iff (hext : ext.Documented) (haccepted : config.validate ext.config = .ok ())
    (henabled : config.healthCheckEnabled = true) :
    (∃ target, HealthCheckTarget.fromConfig ext config = .ok target) ↔ config.TargetFits ext := by
  obtain ⟨url,host,ranges,hurl,hhost,hscheme,hranges⟩ := validate_target haccepted henabled
  obtain ⟨port,hport⟩ := hext.port _ _ hurl hscheme
  have haddr := TargetAddr.new_ok port (hext.host _ _ _ hurl hscheme hhost)
  have hfrom : HealthCheckTarget.fromConfig ext config=HealthCheckTarget.fromUrl ext config url := by
    unfold HealthCheckTarget.fromConfig
    rw [hurl]
  rw [HealthConfig.targetFits_iff hurl hhost,hfrom]
  obtain hhttp | hhttps := hscheme
  · have hnot : url.scheme ≠ "https".toList := by
      rw [hhttp]
      decide
    rw [fromUrl_ok_iff (if_pos hhttp) hhost hport haddr hranges]
    exact iff_of_true ⟨_,rfl⟩ fun h => absurd h hnot
  · have hscheme : HealthCheckTarget.schemeFromUrl url = .ok .https := by
      rw [HealthCheckTarget.schemeFromUrl,if_neg (by rw [hhttps]; decide),if_pos hhttps]
    rw [fromUrl_ok_iff hscheme hhost hport haddr hranges,tls_ok_iff hext]
    exact ⟨fun hname _ => hname,fun hname => hname hhttps⟩

end

/-! Two targets -/

def webUrl (scheme host : Str) (port : UInt16) (path : Str) : Url where
  scheme := scheme
  username := []
  password := none
  hostStr := some host
  port := none
  portOrKnownDefault := some port
  path := path
  query := none
  queryPairs := []
  fragment := none
  asStr := scheme++"://".toList++host++path

/-- Crates that read these two URLs. -/
def sampleTargetExternals : TargetExternals where
  parseUrl text :=
    if text="https://[::1]/".toList then some (webUrl "https".toList ['[',':',':','1',']'] 443 ['/'])
    else if text=AppConfig.default.healthCheckUrl then
      some (webUrl "http".toList "cp.cloudflare.com".toList 80 "/generate_204".toList)
    else none
  isDailyTime _ := true
  maxPermits := 2^61-1
  isServerName host := host ≠ [] && host.all (fun c => c.isAlphanum || c = '-' || c = '_' || c = '.')
  safeDefaultProtocolVersions := .ok ()

lemma sampleTargetExternals_documented : sampleTargetExternals.Documented := by
  have hurls : ∀ text url, sampleTargetExternals.parseUrl text=some url →
      url=webUrl "https".toList ['[',':',':','1',']'] 443 ['/'] ∨
        url=webUrl "http".toList "cp.cloudflare.com".toList 80 "/generate_204".toList := by
    intro text url hurl
    unfold sampleTargetExternals at hurl
    dsimp only at hurl
    split_ifs at hurl
    · exact .inl (Option.some.inj hurl).symm
    · exact .inr (Option.some.inj hurl).symm
  refine ⟨fun text url host hurl _ hhost => ?_,fun text url hurl _ => ?_,rfl⟩
  · obtain rfl | rfl := hurls text url hurl
    · cases hhost
      decide
    · cases hhost
      decide
  · obtain rfl | rfl := hurls text url hurl
    · exact ⟨443,rfl⟩
    · exact ⟨80,rfl⟩

def defaultHealth : HealthConfig := {AppConfig.default with healthCheckTlsSkipVerify := false}

lemma defaultHealth_accepted : defaultHealth.validate sampleTargetExternals.config = .ok () := by decide

lemma defaultHealth_target : ∃ target, HealthCheckTarget.fromConfig sampleTargetExternals defaultHealth = .ok target := by
  refine (fromConfig_ok_iff sampleTargetExternals_documented defaultHealth_accepted rfl).mpr ?_
  rintro url host hurl hscheme hhost
  cases hurl
  exact absurd hscheme (by decide)

end RotatorProxy.Health
