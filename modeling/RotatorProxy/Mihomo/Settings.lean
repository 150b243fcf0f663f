import RotatorProxy.Mihomo.Fields

/-! The adapters of two complex nodes, compared field by field with their entries. -/
namespace RotatorProxy.Mihomo
open Text Proxy Library

/-! What the builders read -/

section Layers
variable {env : MeowExternals} {m m' : Mapping}

lemma requiredString_ok {keys : List Str} {name value : Str} :
    requiredString m keys name = .ok value ↔ stringField m keys=some value := by
  unfold requiredString
  cases stringField m keys <;> simp

lemma requiredPort_ok {keys : List Str} {name : Str} {port : UInt16} :
    requiredPort m keys name = .ok port ↔ u16Field m keys=some port := by
  unfold requiredPort
  cases u16Field m keys <;> simp

lemma uuidBytes_ok {text : Str} {uuid : Bytes} : uuidBytes env text = .ok uuid ↔ env.uuidParse text=some uuid := by
  unfold uuidBytes
  cases env.uuidParse text <;> simp

lemma optionalTlsServerName_ok {tenv : TransportExternals} {value : Option Str} {fallback name : Str}
    (h : optionalTlsServerNameOrFallback tenv value fallback = .ok name) : name=(trimmed value).getD fallback := by
  unfold optionalTlsServerNameOrFallback at h
  cases hvalue : trimmed value with
  | none =>
    rw [hvalue] at h
    exact (Except.ok.inj h).symm
  | some text =>
    rw [hvalue] at h
    obtain ⟨_,_,heq⟩ := map_eq_ok.mp h
    exact heq.symm

/-- The settings of the TLS layer of an entry. -/
def tlsConfigOf (m : Mapping) (serverName : Str) (reality : Option RealityConfig) : TlsConfig :=
  ⟨serverName,skipCertVerify m,(stringListField m ["alpn".toList]).getD [],
    stringField m ["client-fingerprint".toList,"fingerprint".toList],reality⟩

lemma pushTlsLayer_config {tenv : TransportExternals} {chain chain' : TransportChain} {name : Str}
    {reality : Option RealityConfig} (h : pushTlsLayer tenv chain m name reality = .ok chain') :
    chain'=chain++[.tls (tlsConfigOf m name reality)] := by
  unfold pushTlsLayer at h
  dsimp only at h
  split_ifs at h
  exact (Except.ok.inj h).symm

lemma parseRealityConfig_ok {tenv : TransportExternals} {reality : Option RealityConfig}
    (h : parseRealityConfig tenv m = .ok reality) : (realityOpts m=none ∧ reality=none) ∨
      ∃ o publicKey shortId, realityOpts m=some o ∧
        (stringField o ["public-key".toList,"public_key".toList,"pbk".toList]).map (decodeRealityPublicKey tenv)=
          some (.ok publicKey) ∧
        decodeRealityShortId ((stringField o ["short-id".toList,"short_id".toList,"sid".toList]).getD []) =
          .ok shortId ∧
        reality=some ⟨publicKey,shortId,(boolField o ["support-x25519-mlkem768".toList,
          "support_x25519_mlkem768".toList,"x25519-mlkem768".toList]).getD false⟩ := by
  unfold parseRealityConfig at h
  cases hopts : mappingField m "reality-opts".toList with
  | none =>
    rw [hopts] at h
    exact .inl ⟨hopts,(Except.ok.inj h).symm⟩
  | some o =>
    rw [hopts] at h
    dsimp only at h
    cases hkey : stringField o ["public-key".toList,"public_key".toList,"pbk".toList] with
    | none =>
      rw [hkey] at h
      cases h
    | some text =>
      rw [hkey] at h
      obtain ⟨publicKey,hpublic,h⟩ := bind_eq_ok.mp h
      obtain ⟨shortId,hshort,h⟩ := bind_eq_ok.mp h
      refine .inr ⟨o,publicKey,shortId,hopts,?_,hshort,(Except.ok.inj h).symm⟩
      rw [hkey,Option.map_some,hpublic]

theorem reality_eq_iff {reality reality' : Option RealityConfig}
    (h : parseRealityConfig env.toTransportExternals m = .ok reality)
    (h' : parseRealityConfig env.toTransportExternals m' = .ok reality') :
    reality=reality' ↔ SameReality env m m' := by
  rw [sameReality_iff]
  obtain ⟨hnone,rfl⟩ | ⟨o,publicKey,shortId,hsome,hpublic,hshort,rfl⟩ := parseRealityConfig_ok h
  · obtain ⟨hnone',rfl⟩ | ⟨o',publicKey',shortId',hsome',hpublic',hshort',rfl⟩ := parseRealityConfig_ok h'
    · simp [hnone,hnone']
    · simp [hnone,hsome']
  · obtain ⟨hnone',rfl⟩ | ⟨o',publicKey',shortId',hsome',hpublic',hshort',rfl⟩ := parseRealityConfig_ok h'
    · simp [hsome,hnone']
    · simp only [hsome,hsome',Option.mem_some_iff,forall_eq',hpublic,hpublic',hshort,hshort',SameFlag,
        Option.isSome_some,Option.some.injEq,Except.ok.injEq,RealityConfig.mk.injEq,true_and]

lemma tlsConfigOf_eq_iff {name name' : Str} {reality reality' : Option RealityConfig} :
    tlsConfigOf m name reality=tlsConfigOf m' name' reality' ↔
      name=name' ∧ SameTlsOptions m m' ∧ reality=reality' := by
  simp only [tlsConfigOf,TlsConfig.mk.injEq,sameTlsOptions_iff,SameFlag,SameText,skipCertVerify,and_assoc]

/-- The layer that the network of an entry stands for. -/
def layerOf (env : MeowExternals) (m : Mapping) : Network → Option TransportLayer
  | .ws => some (.ws (wsConfig env.toTransportExternals m (entryServer m)))
  | .grpc => some (.grpc (grpcConfig m (entryServer m)))
  | .h2 => some (.h2 (h2Config m (entryServer m)))
  | .httpUpgrade => some (.httpUpgrade (httpUpgradeConfig m (entryServer m)))
  | .plain | .unknown => none

lemma transportLayer_layerOf {layer : Option TransportLayer}
    (h : transportLayer env.toTransportExternals m (entryServer m) = .ok layer) :
    networkOf m ≠ .unknown ∧ layer=layerOf env m (networkOf m) := by
  unfold transportLayer at h
  unfold networkOf
  dsimp only at h ⊢
  split_ifs at h ⊢ <;> cases h <;> exact ⟨Network.noConfusion,rfl⟩

theorem layerOf_eq_iff (h : networkOf m ≠ .unknown) (h' : networkOf m' ≠ .unknown) :
    layerOf env m (networkOf m)=layerOf env m' (networkOf m') ↔ SameNetwork env m m' := by
  have hws : wsConfig env.toTransportExternals m (entryServer m)=
      wsConfig env.toTransportExternals m' (entryServer m') ↔ SameWs env m m' := by
    simp only [wsConfig,WsConfig.mk.injEq,sameWs_iff,wsHost,Option.some.injEq]
  have hgrpc : grpcConfig m (entryServer m)=grpcConfig m' (entryServer m') ↔ SameGrpc m m' := by
    simp only [grpcConfig,GrpcConfig.mk.injEq,sameGrpc_iff]
  have hh2 : h2Config m (entryServer m)=h2Config m' (entryServer m') ↔ SameH2 m m' := by
    simp only [h2Config,H2Config.mk.injEq,sameH2_iff]
  have hhost : ∀ (host : Option Str) (server : Str), host.or (some server)=some (host.getD server) := by
    intro host server
    cases host <;> rfl
  have hupgrade : httpUpgradeConfig m (entryServer m)=httpUpgradeConfig m' (entryServer m') ↔
      SameHttpUpgrade m m' := by
    simp only [httpUpgradeConfig,HttpUpgradeConfig.mk.injEq,sameHttpUpgrade_iff,hhost,Option.some.injEq]
  rw [sameNetwork_iff]
  cases hnetwork : networkOf m <;> cases hnetwork' : networkOf m'
  all_goals first
    | exact absurd hnetwork h
    | exact absurd hnetwork' h'
    | simp [layerOf,SameLayer,hws,hgrpc,hh2,hupgrade]

lemma layers_eq_iff (h : networkOf m ≠ .unknown) (h' : networkOf m' ≠ .unknown) :
    (layerOf env m (networkOf m)).toList=(layerOf env m' (networkOf m')).toList ↔ SameNetwork env m m' := by
  rw [← layerOf_eq_iff h h']
  cases layerOf env m (networkOf m) <;> cases layerOf env m' (networkOf m') <;> simp

lemma layerOf_ne_tls (network : Network) (config : TlsConfig) : layerOf env m network ≠ some (.tls config) := by
  cases network <;> simp [layerOf]

/-- A TLS layer comes first, and no other layer is one. -/
lemma tls_first {config : TlsConfig} {layers : TransportChain} {network : Network}
    (h : .tls config::layers=(layerOf env m network).toList) : False := by
  cases hlayer : layerOf env m network with
  | none =>
    rw [hlayer] at h
    cases h
  | some layer =>
    rw [hlayer] at h
    have hhead := (List.cons.inj h).1
    exact layerOf_ne_tls network config (by rw [hlayer,hhead])

lemma buildTransportChain_layers {chain : TransportChain}
    (h : buildTransportChain env.toTransportExternals m (entryServer m) = .ok chain) :
    ∃ reality, parseRealityConfig env.toTransportExternals m = .ok reality ∧ networkOf m ≠ .unknown ∧
      chain=(if UsesTls m then [.tls (tlsConfigOf m
        ((trimmed (stringField m ["servername".toList,"sni".toList])).getD (entryServer m)) reality)] else [])++
          (layerOf env m (networkOf m)).toList := by
  unfold buildTransportChain at h
  obtain ⟨reality,hreality,h⟩ := bind_eq_ok.mp h
  have hsome : reality.isSome=(realityOpts m).isSome := by
    obtain ⟨hnone,rfl⟩ | ⟨o,_,_,hsome,_,_,rfl⟩ := parseRealityConfig_ok hreality
    · rw [hnone]
      rfl
    · rw [hsome]
      rfl
  have htls : ((boolField m ["tls".toList]).getD false || reality.isSome) = true ↔ UsesTls m := by
    rw [hsome,Bool.or_eq_true,UsesTls]
  refine ⟨reality,hreality,?_⟩
  dsimp only at h
  split_ifs at h with huses
  · obtain ⟨name,hname,h⟩ := bind_eq_ok.mp h
    obtain ⟨first,hfirst,h⟩ := bind_eq_ok.mp h
    obtain ⟨layer,hlayer,rfl⟩ := pushTransportLayers_ok h
    obtain ⟨hknown,rfl⟩ := transportLayer_layerOf hlayer
    rw [pushTlsLayer_config hfirst,optionalTlsServerName_ok hname,if_pos (htls.mp huses),List.nil_append]
    exact ⟨hknown,rfl⟩
  · obtain ⟨first,hfirst,h⟩ := bind_eq_ok.mp h
    cases hfirst
    obtain ⟨layer,hlayer,rfl⟩ := pushTransportLayers_ok h
    obtain ⟨hknown,rfl⟩ := transportLayer_layerOf hlayer
    rw [if_neg (fun h => huses (htls.mpr h))]
    exact ⟨hknown,rfl⟩

theorem transport_eq_iff {chain chain' : TransportChain}
    (h : buildTransportChain env.toTransportExternals m (entryServer m) = .ok chain)
    (h' : buildTransportChain env.toTransportExternals m' (entryServer m') = .ok chain') :
    chain=chain' ↔ SameTransport env m m' := by
  obtain ⟨reality,hreality,hknown,rfl⟩ := buildTransportChain_layers h
  obtain ⟨reality',hreality',hknown',rfl⟩ := buildTransportChain_layers h'
  have hlayers := @layers_eq_iff env m m' hknown hknown'
  rw [sameTransport_iff]
  by_cases htls : UsesTls m
  · by_cases htls' : UsesTls m'
    · simp only [htls,htls',if_true,List.cons_append,List.nil_append,List.cons.injEq,TransportLayer.tls.injEq,
        tlsConfigOf_eq_iff,reality_eq_iff hreality hreality',hlayers,sameTls_iff,SameServerName,true_and,
        forall_true_left]
    · rw [if_pos htls,if_neg htls']
      exact iff_of_false tls_first (fun hsame => htls' (hsame.1.mp htls))
  · by_cases htls' : UsesTls m'
    · rw [if_neg htls,if_pos htls']
      exact iff_of_false (fun heq => tls_first heq.symm) (fun hsame => htls (hsame.1.mpr htls'))
    · simp [htls,htls',hlayers]

end Layers

/-! What each builder makes of its entry -/

section Builders
variable {env : MeowExternals} {proxy proxy' : MihomoProxyConfig} {m m' : Mapping} {node node' : MeowProxyNode}
  {adapter adapter' : MeowAdapter}

lemma entryServer_of {name server : Str} (h : requiredString m ["server".toList] name = .ok server) :
    server=entryServer m := by
  rw [entryServer,requiredString_ok.mp h,Option.getD_some]

lemma entryPort_of (protocol : Protocol) {name : Str} {port : UInt16}
    (h : requiredPort m ["port".toList] name = .ok port) : port=entryPort protocol m := by
  rw [entryPort,requiredPort_ok.mp h,Option.getD_some]

lemma buildVmess_reads (h : buildVmess env proxy m = .ok (node,adapter)) : ∃ uuid security transport,
    adapter = .vmess (entryServer m) (entryPort .vmess m) uuid security (udpField m) transport ∧
      (stringField m ["uuid".toList,"id".toList]).bind env.uuidParse=some uuid ∧
      parseVmessSecurity env m = .ok security ∧
      buildTransportChain env.toTransportExternals m (entryServer m) = .ok transport := by
  unfold buildVmess at h
  obtain ⟨server,hserver,h⟩ := bind_eq_ok.mp h
  obtain rfl := entryServer_of hserver
  obtain ⟨port,hport,h⟩ := bind_eq_ok.mp h
  obtain rfl := entryPort_of .vmess hport
  obtain ⟨text,htext,h⟩ := bind_eq_ok.mp h
  obtain ⟨uuid,huuid,h⟩ := bind_eq_ok.mp h
  dsimp only at h
  split_ifs at h
  obtain ⟨security,hsecurity,h⟩ := bind_eq_ok.mp h
  obtain ⟨transport,htransport,h⟩ := bind_eq_ok.mp h
  cases h
  refine ⟨uuid,security,transport,rfl,?_,hsecurity,htransport⟩
  rw [requiredString_ok.mp htext,Option.bind_some,uuidBytes_ok.mp huuid]

lemma buildVless_reads (h : buildVless env proxy m = .ok (node,adapter)) : ∃ uuid flow transport,
    adapter = .vless (entryServer m) (entryPort .vless m) uuid flow (udpField m) transport ∧
      (stringField m ["uuid".toList,"id".toList]).bind env.uuidParse=some uuid ∧
      parseVlessFlow m = .ok flow ∧
      buildTransportChain env.toTransportExternals m (entryServer m) = .ok transport := by
  unfold buildVless at h
  obtain ⟨server,hserver,h⟩ := bind_eq_ok.mp h
  obtain rfl := entryServer_of hserver
  obtain ⟨port,hport,h⟩ := bind_eq_ok.mp h
  obtain rfl := entryPort_of .vless hport
  obtain ⟨text,htext,h⟩ := bind_eq_ok.mp h
  obtain ⟨uuid,huuid,h⟩ := bind_eq_ok.mp h
  dsimp only at h
  split_ifs at h
  obtain ⟨flow,hflow,h⟩ := bind_eq_ok.mp h
  obtain ⟨transport,htransport,h⟩ := bind_eq_ok.mp h
  cases h
  refine ⟨uuid,flow,transport,rfl,?_,hflow,htransport⟩
  rw [requiredString_ok.mp htext,Option.bind_some,uuidBytes_ok.mp huuid]

lemma tryBuilt_ok {name : Str} {made : MeowAdapter}
    (h : tryBuilt env proxy name made = .ok (node,adapter)) : adapter=made := by
  unfold tryBuilt at h
  split_ifs at h
  cases h
  rfl

lemma buildTrojanTransportChain_layers {sni : Str} {chain : TransportChain}
    (h : buildTrojanTransportChain env.toTransportExternals m (entryServer m) sni = .ok chain) :
    networkOf m ≠ .unknown ∧
      chain = .tls (tlsConfigOf m sni none)::(layerOf env m (networkOf m)).toList := by
  obtain ⟨first,hfirst,h⟩ := bind_eq_ok.mp h
  obtain ⟨layer,hlayer,rfl⟩ := pushTransportLayers_ok h
  obtain ⟨hknown,rfl⟩ := transportLayer_layerOf hlayer
  rw [pushTlsLayer_config hfirst]
  exact ⟨hknown,rfl⟩

/-- The name in the TLS connection of a Trojan node. -/
def trojanSni (m : Mapping) : Str :=
  (trimmed (stringField m ["sni".toList,"servername".toList])).getD (entryServer m)

lemma buildTrojan_reads (h : buildTrojan env proxy m = .ok (node,adapter)) :
    ∃ password, stringField m ["password".toList]=some password ∧
      ((TrojanDirect m ∧ adapter = .trojan (entryServer m) (entryPort .trojan m) password (trojanSni m)
          (skipCertVerify m) (udpField m)) ∨
        (¬TrojanDirect m ∧ networkOf m ≠ .unknown ∧
          adapter = .trojanTransport (entryServer m) (entryPort .trojan m) (hexLower (env.sha224 (utf8 password)))
            (.tls (tlsConfigOf m (trojanSni m) none)::(layerOf env m (networkOf m)).toList))) := by
  unfold buildTrojan at h
  obtain ⟨server,hserver,h⟩ := bind_eq_ok.mp h
  obtain rfl := entryServer_of hserver
  obtain ⟨port,hport,h⟩ := bind_eq_ok.mp h
  obtain rfl := entryPort_of .trojan hport
  obtain ⟨password,hpassword,h⟩ := bind_eq_ok.mp h
  obtain ⟨sni,hsni,h⟩ := bind_eq_ok.mp h
  obtain ⟨_,-,h⟩ := bind_eq_ok.mp h
  have hname : sni=trojanSni m := optionalTlsServerName_ok hsni
  refine ⟨password,requiredString_ok.mp hpassword,?_⟩
  split_ifs at h with hnetwork
  · cases h
    rw [hname]
    exact .inl ⟨hnetwork,rfl⟩
  · obtain ⟨transport,htransport,h⟩ := bind_eq_ok.mp h
    obtain ⟨hknown,rfl⟩ := buildTrojanTransportChain_layers htransport
    cases h
    rw [hname]
    exact .inr ⟨hnetwork,hknown,rfl⟩

lemma buildHysteria_reads (h : buildHysteria env proxy m = .ok (node,adapter)) :
    ∃ auth, stringField m ["auth".toList,"password".toList]=some auth ∧
      adapter = .hysteria ⟨entryServer m,entryPort .hysteria m,utf8 auth,
        stringField m ["sni".toList,"servername".toList],hysteriaAlpn m,skipCertVerify m,upBps m,downBps m,
        (stringField m ["obfs".toList,"obfs-password".toList,"obfs_password".toList]).filter (fun s => s ≠ []),
        (boolField m ["fast-open".toList]).getD false⟩ := by
  unfold buildHysteria at h
  obtain ⟨server,hserver,h⟩ := bind_eq_ok.mp h
  obtain rfl := entryServer_of hserver
  obtain ⟨port,hport,h⟩ := bind_eq_ok.mp h
  obtain rfl := entryPort_of .hysteria hport
  obtain ⟨auth,hauth,h⟩ := bind_eq_ok.mp h
  dsimp only at h
  split_ifs at h
  obtain ⟨made,hmade,h⟩ := bind_eq_ok.mp h
  cases h
  unfold hysteriaAdapterNew at hmade
  split_ifs at hmade
  cases hmade
  exact ⟨auth,requiredString_ok.mp hauth,rfl⟩

lemma buildHysteria2_reads (h : buildHysteria2 env proxy m = .ok (node,adapter)) :
    ∃ password obfs, stringField m ["password".toList,"auth".toList]=some password ∧
      parseHy2Obfs m = .ok obfs ∧
      adapter = .hysteria2 ⟨entryServer m,entryPort .hysteria2 m,password,
        stringField m ["sni".toList,"servername".toList],skipCertVerify m,udpField m,upBps m,downBps m,obfs,
        stringField m ["obfs-password".toList,"obfs_password".toList],
        stringField m ["ports".toList,"mport".toList],parseHy2HopInterval env m,
        stringField m ["pinSHA256".toList,"fingerprint".toList],
        (boolField m ["fast-open".toList]).getD false⟩ := by
  unfold buildHysteria2 at h
  obtain ⟨server,hserver,h⟩ := bind_eq_ok.mp h
  obtain rfl := entryServer_of hserver
  obtain ⟨port,hport,h⟩ := bind_eq_ok.mp h
  obtain rfl := entryPort_of .hysteria2 hport
  obtain ⟨password,hpassword,h⟩ := bind_eq_ok.mp h
  obtain ⟨obfs,hobfs,h⟩ := bind_eq_ok.mp h
  exact ⟨password,obfs,requiredString_ok.mp hpassword,hobfs,tryBuilt_ok h⟩

lemma buildSnell_reads (h : buildSnell env proxy m = .ok (node,adapter)) :
    ∃ psk version obfs, stringField m ["psk".toList,"password".toList]=some psk ∧
      parseSnellVersion m = .ok version ∧ parseSnellObfs m (entryServer m) = .ok obfs ∧
      adapter = .snell (entryServer m) (entryPort .snell m) psk obfs version (udpField m)
        ((boolField m ["reuse".toList]).getD false) := by
  unfold buildSnell at h
  obtain ⟨server,hserver,h⟩ := bind_eq_ok.mp h
  obtain rfl := entryServer_of hserver
  obtain ⟨port,hport,h⟩ := bind_eq_ok.mp h
  obtain rfl := entryPort_of .snell hport
  obtain ⟨psk,hpsk,h⟩ := bind_eq_ok.mp h
  obtain ⟨version,hversion,h⟩ := bind_eq_ok.mp h
  obtain ⟨obfs,hobfs,h⟩ := bind_eq_ok.mp h
  exact ⟨psk,version,obfs,requiredString_ok.mp hpsk,hversion,hobfs,tryBuilt_ok h⟩

lemma buildAnytls_reads (h : buildAnytls env proxy m = .ok (node,adapter)) :
    ∃ password, stringField m ["password".toList]=some password ∧
      adapter = .anytls (entryServer m) (entryPort .anytls m) password
        (stringField m ["sni".toList,"servername".toList]) (skipCertVerify m) := by
  unfold buildAnytls at h
  obtain ⟨server,hserver,h⟩ := bind_eq_ok.mp h
  obtain rfl := entryServer_of hserver
  obtain ⟨password,hpassword,h⟩ := bind_eq_ok.mp h
  exact ⟨password,requiredString_ok.mp hpassword,tryBuilt_ok h⟩

lemma buildShadowsocks_reads (h : buildShadowsocks env proxy m = .ok (node,adapter)) :
    ∃ cipher password, stringField m ["cipher".toList,"method".toList]=some cipher ∧
      stringField m ["password".toList]=some password ∧
      adapter = .shadowsocks (entryServer m) (entryPort .shadowsocks m) password cipher (udpField m)
        (stringField m ["plugin".toList]) (stringField m ["plugin-opts".toList]) := by
  unfold buildShadowsocks at h
  obtain ⟨server,hserver,h⟩ := bind_eq_ok.mp h
  obtain rfl := entryServer_of hserver
  obtain ⟨port,hport,h⟩ := bind_eq_ok.mp h
  obtain rfl := entryPort_of .shadowsocks hport
  obtain ⟨cipher,hcipher,h⟩ := bind_eq_ok.mp h
  obtain ⟨password,hpassword,h⟩ := bind_eq_ok.mp h
  dsimp only at h
  split at h
  · cases h
  · exact ⟨cipher,password,requiredString_ok.mp hcipher,requiredString_ok.mp hpassword,tryBuilt_ok h⟩

/-! Two nodes of one protocol -/

/-- Server, port and the other fields of two entries. -/
def SameEntry (protocol : Protocol) (m m' : Mapping) (fields : Prop) : Prop :=
  entryServer m=entryServer m' ∧ entryPort protocol m=entryPort protocol m' ∧ fields

lemma vmess_eq_iff (h : buildVmess env proxy m = .ok (node,adapter))
    (h' : buildVmess env proxy' m' = .ok (node',adapter')) :
    adapter.tcp=adapter'.tcp ↔ SameEntry .vmess m m' (SameVmess env m m') := by
  obtain ⟨uuid,security,transport,rfl,huuid,hsecurity,htransport⟩ := buildVmess_reads h
  obtain ⟨uuid',security',transport',rfl,huuid',hsecurity',htransport'⟩ := buildVmess_reads h'
  simp only [MeowAdapter.tcp,MeowAdapter.vmess.injEq,SameEntry,sameVmess_iff,huuid,huuid',hsecurity,hsecurity',
    transport_eq_iff htransport htransport',Option.some.injEq,Except.ok.injEq,true_and]

lemma vless_eq_iff (h : buildVless env proxy m = .ok (node,adapter))
    (h' : buildVless env proxy' m' = .ok (node',adapter')) :
    adapter.tcp=adapter'.tcp ↔ SameEntry .vless m m' (SameVless env m m') := by
  obtain ⟨uuid,flow,transport,rfl,huuid,hflow,htransport⟩ := buildVless_reads h
  obtain ⟨uuid',flow',transport',rfl,huuid',hflow',htransport'⟩ := buildVless_reads h'
  simp only [MeowAdapter.tcp,MeowAdapter.vless.injEq,SameEntry,sameVless_iff,huuid,huuid',hflow,hflow',
    transport_eq_iff htransport htransport',Option.some.injEq,Except.ok.injEq,true_and]

lemma hysteria_eq_iff (h : buildHysteria env proxy m = .ok (node,adapter))
    (h' : buildHysteria env proxy' m' = .ok (node',adapter')) :
    adapter.tcp=adapter'.tcp ↔ SameEntry .hysteria m m' (SameHysteria m m') := by
  have hutf8 : ∀ s t : Str, utf8 s=utf8 t ↔ s=t := by
    intro s t
    refine ⟨fun heq => ?_,congrArg utf8⟩
    have hread := congrArg fromUtf8 heq
    rwa [fromUtf8_utf8,fromUtf8_utf8,Option.some.injEq] at hread
  obtain ⟨auth,hauth,rfl⟩ := buildHysteria_reads h
  obtain ⟨auth',hauth',rfl⟩ := buildHysteria_reads h'
  simp only [MeowAdapter.tcp,MeowAdapter.hysteria.injEq,HysteriaOptions.mk.injEq,SameEntry,sameHysteria_iff,
    SameText,SameFlag,skipCertVerify,hauth,hauth',hutf8,Option.some.injEq]

lemma hysteria2_eq_iff (h : buildHysteria2 env proxy m = .ok (node,adapter))
    (h' : buildHysteria2 env proxy' m' = .ok (node',adapter')) :
    adapter.tcp=adapter'.tcp ↔ SameEntry .hysteria2 m m' (SameHysteria2 env m m') := by
  obtain ⟨password,obfs,hpassword,hobfs,rfl⟩ := buildHysteria2_reads h
  obtain ⟨password',obfs',hpassword',hobfs',rfl⟩ := buildHysteria2_reads h'
  simp only [MeowAdapter.tcp,MeowAdapter.hysteria2.injEq,Hy2Options.mk.injEq,SameEntry,sameHysteria2_iff,
    SameText,SameFlag,skipCertVerify,hpassword,hpassword',hobfs,hobfs',Option.some.injEq,Except.ok.injEq,true_and]

lemma snell_eq_iff (h : buildSnell env proxy m = .ok (node,adapter))
    (h' : buildSnell env proxy' m' = .ok (node',adapter')) :
    adapter.tcp=adapter'.tcp ↔ SameEntry .snell m m' (SameSnell m m') := by
  obtain ⟨psk,version,obfs,hpsk,hversion,hobfs,rfl⟩ := buildSnell_reads h
  obtain ⟨psk',version',obfs',hpsk',hversion',hobfs',rfl⟩ := buildSnell_reads h'
  simp only [MeowAdapter.tcp,MeowAdapter.snell.injEq,SameEntry,sameSnell_iff,SameText,SameFlag,hpsk,hpsk',
    hversion,hversion',hobfs,hobfs',Option.some.injEq,Except.ok.injEq,true_and]
  tauto

lemma anytls_eq_iff (h : buildAnytls env proxy m = .ok (node,adapter))
    (h' : buildAnytls env proxy' m' = .ok (node',adapter')) :
    adapter.tcp=adapter'.tcp ↔ SameEntry .anytls m m' (SameAnytls m m') := by
  obtain ⟨password,hpassword,rfl⟩ := buildAnytls_reads h
  obtain ⟨password',hpassword',rfl⟩ := buildAnytls_reads h'
  simp only [MeowAdapter.tcp,MeowAdapter.anytls.injEq,SameEntry,sameAnytls_iff,SameText,SameFlag,skipCertVerify,
    hpassword,hpassword',Option.some.injEq]

lemma shadowsocks_eq_iff (h : buildShadowsocks env proxy m = .ok (node,adapter))
    (h' : buildShadowsocks env proxy' m' = .ok (node',adapter')) :
    adapter.tcp=adapter'.tcp ↔ SameEntry .shadowsocks m m' (SameShadowsocks m m') := by
  obtain ⟨cipher,password,hcipher,hpassword,rfl⟩ := buildShadowsocks_reads h
  obtain ⟨cipher',password',hcipher',hpassword',rfl⟩ := buildShadowsocks_reads h'
  simp only [MeowAdapter.tcp,MeowAdapter.shadowsocks.injEq,SameEntry,sameShadowsocks_iff,SameText,hcipher,hcipher',
    hpassword,hpassword',Option.some.injEq,true_and]
  tauto

lemma trojan_eq_iff (h : buildTrojan env proxy m = .ok (node,adapter))
    (h' : buildTrojan env proxy' m' = .ok (node',adapter')) :
    adapter.tcp=adapter'.tcp ↔ SameEntry .trojan m m' (SameTrojan env m m') := by
  obtain ⟨password,hpassword,hadapter⟩ := buildTrojan_reads h
  obtain ⟨password',hpassword',hadapter'⟩ := buildTrojan_reads h'
  simp only [SameEntry,sameTrojan_iff]
  obtain ⟨hdirect,rfl⟩ | ⟨hover,hknown,rfl⟩ := hadapter
  · obtain ⟨hdirect',rfl⟩ | ⟨hover',hknown',rfl⟩ := hadapter'
    · simp only [MeowAdapter.tcp,MeowAdapter.trojan.injEq,hdirect,hdirect',SameText,SameFlag,SameServerName,
        skipCertVerify,trojanSni,hpassword,hpassword',Option.some.injEq,true_and,forall_true_left,not_true,
        forall_false,and_true]
      tauto
    · simp [MeowAdapter.tcp,hdirect,hover']
  · obtain ⟨hdirect',rfl⟩ | ⟨hover',hknown',rfl⟩ := hadapter'
    · simp [MeowAdapter.tcp,hdirect',hover]
    · simp only [MeowAdapter.tcp,MeowAdapter.trojanTransport.injEq,List.cons.injEq,TransportLayer.tls.injEq,
        tlsConfigOf_eq_iff,layers_eq_iff hknown hknown',hover,hover',SameServerName,trojanSni,hpassword,hpassword',Option.getD_some,
        true_and,forall_true_left,not_false_eq_true,forall_false,and_true]
      tauto

/-! All protocols -/

def buildAs (env : MeowExternals) (proxy : MihomoProxyConfig) (m : Mapping) : Protocol → MeowBuild
  | .vmess => buildVmess env proxy m
  | .vless => buildVless env proxy m
  | .trojan => buildTrojan env proxy m
  | .hysteria => buildHysteria env proxy m
  | .hysteria2 => buildHysteria2 env proxy m
  | .snell => buildSnell env proxy m
  | .anytls => buildAnytls env proxy m
  | .shadowsocks => buildShadowsocks env proxy m
  | .unknown => .error []

lemma buildMeowNode_as (h : buildMeowNode env proxy = .ok (node,adapter)) :
    buildAs env proxy (entryOf proxy) (protocolOf proxy) = .ok (node,adapter) := by
  unfold buildMeowNode at h
  unfold protocolOf entryOf
  cases hvalue : asMapping proxy.value with
  | none =>
    rw [hvalue] at h
    cases h
  | some m =>
    rw [hvalue] at h
    dsimp only [Option.getD_some] at h ⊢
    split_ifs at h ⊢ <;> exact h

def MeowAdapter.protocol : MeowAdapter → Protocol
  | .vmess .. => .vmess
  | .vless .. => .vless
  | .trojan .. | .trojanTransport .. => .trojan
  | .hysteria .. => .hysteria
  | .hysteria2 .. => .hysteria2
  | .snell .. => .snell
  | .anytls .. => .anytls
  | .shadowsocks .. => .shadowsocks

@[simp] lemma MeowAdapter.tcp_protocol : adapter.tcp.protocol=adapter.protocol := by cases adapter <;> rfl

/-- Of what the protocol of the entry makes, protocol, server and port are the entry's. -/
structure OfEntry (made : Protocol) (m : Mapping) (adapter : MeowAdapter) : Prop where
  protocol : adapter.protocol=made
  server : adapter.server=entryServer m
  port : adapter.port=entryPort made m

lemma buildAs_ofEntry {protocol : Protocol} (h : buildAs env proxy m protocol = .ok (node,adapter)) :
    OfEntry protocol m adapter := by
  cases protocol with
  | vmess =>
    obtain ⟨_,_,_,rfl,_⟩ := buildVmess_reads h
    exact ⟨rfl,rfl,rfl⟩
  | vless =>
    obtain ⟨_,_,_,rfl,_⟩ := buildVless_reads h
    exact ⟨rfl,rfl,rfl⟩
  | trojan =>
    obtain ⟨_,_,⟨_,rfl⟩ | ⟨_,_,rfl⟩⟩ := buildTrojan_reads h
    · exact ⟨rfl,rfl,rfl⟩
    · exact ⟨rfl,rfl,rfl⟩
  | hysteria =>
    obtain ⟨_,_,rfl⟩ := buildHysteria_reads h
    exact ⟨rfl,rfl,rfl⟩
  | hysteria2 =>
    obtain ⟨_,_,_,_,rfl⟩ := buildHysteria2_reads h
    exact ⟨rfl,rfl,rfl⟩
  | snell =>
    obtain ⟨_,_,_,_,_,_,rfl⟩ := buildSnell_reads h
    exact ⟨rfl,rfl,rfl⟩
  | anytls =>
    obtain ⟨_,_,rfl⟩ := buildAnytls_reads h
    exact ⟨rfl,rfl,rfl⟩
  | shadowsocks =>
    obtain ⟨_,_,_,_,rfl⟩ := buildShadowsocks_reads h
    exact ⟨rfl,rfl,rfl⟩
  | unknown => cases h

lemma buildAs_eq_iff {protocol : Protocol} (h : buildAs env proxy m protocol = .ok (node,adapter))
    (h' : buildAs env proxy' m' protocol = .ok (node',adapter')) :
    adapter.tcp=adapter'.tcp ↔ SameEntry protocol m m' (SameFields env m m' protocol) := by
  cases protocol with
  | vmess => exact vmess_eq_iff h h'
  | vless => exact vless_eq_iff h h'
  | trojan => exact trojan_eq_iff h h'
  | hysteria => exact hysteria_eq_iff h h'
  | hysteria2 => exact hysteria2_eq_iff h h'
  | snell => exact snell_eq_iff h h'
  | anytls => exact anytls_eq_iff h h'
  | shadowsocks => exact shadowsocks_eq_iff h h'
  | unknown => cases h

/-- Two complex nodes dial alike exactly when their entries say the same. -/
theorem tcp_eq_iff (h : buildMeowNode env proxy = .ok (node,adapter))
    (h' : buildMeowNode env proxy' = .ok (node',adapter')) :
    adapter.tcp=adapter'.tcp ↔ SameSettings env proxy proxy' := by
  replace h := buildMeowNode_as h
  replace h' := buildMeowNode_as h'
  have hprotocol := (buildAs_ofEntry h).protocol
  have hprotocol' := (buildAs_ofEntry h').protocol
  by_cases hsame : protocolOf proxy=protocolOf proxy'
  · rw [← hsame] at h'
    rw [buildAs_eq_iff h h']
    constructor
    · rintro ⟨hserver,hport,hfields⟩
      exact ⟨hsame,hserver,hsame ▸ hport,hfields⟩
    · rintro ⟨_,hserver,hport,hfields⟩
      exact ⟨hserver,hsame ▸ hport,hfields⟩
  · refine iff_of_false (fun heq => hsame ?_) (fun hall => hsame hall.protocol)
    have htcp := congrArg MeowAdapter.protocol heq
    rwa [MeowAdapter.tcp_protocol,MeowAdapter.tcp_protocol,hprotocol,hprotocol'] at htcp

end Builders

end RotatorProxy.Mihomo
