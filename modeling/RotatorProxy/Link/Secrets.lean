import RotatorProxy.Library.Outcome
import RotatorProxy.Link.Address
import RotatorProxy.Text.Base64
import RotatorProxy.Text.Percent

/-! The three forms of a Shadowsocks link, and what they make of its password. -/
namespace RotatorProxy.Link
open Text Proxy Library

/-- The crates that decode do as they are documented. -/
structure CratesDecode (env : LinkExternals) : Prop where
  percent : env.percentDecode=percentDecode
  standard : env.base64Standard=base64Decode base64Alphabet
  urlSafe : env.base64UrlSafe=base64Decode base64UrlAlphabet

/-- The text is base64 of the other one, in one of the two alphabets. -/
def EncodesText (s text : Str) : Prop :=
  IsBase64Of base64Alphabet s (utf8 text) ∨ IsBase64Of base64UrlAlphabet s (utf8 text)

def withoutSpace (s : Str) : Str := s.filter (fun c => !isWhitespace c)

/-! Decoding -/

lemma withoutSpace_self {s : Str} (h : ∀ c ∈ s, isWhitespace c = false) : withoutSpace s=s := by
  rw [withoutSpace,List.filter_eq_self]
  intro c hc
  rw [h c hc]
  rfl

lemma EncodesText.chars {s text : Str} (h : EncodesText s text) :
    ∀ c ∈ s, c ∈ base64Alphabet ∨ c ∈ base64UrlAlphabet ∨ c = '=' := by
  intro c hc
  obtain ⟨k,-,rfl⟩ | ⟨k,-,rfl⟩ := h
  all_goals
    obtain hc | hc := List.mem_append.mp hc
  · exact .inl (base64Alphabet_isAlphabet.letters c hc)
  · exact .inr (.inr (List.eq_of_mem_replicate hc))
  · exact .inr (.inl (base64UrlAlphabet_isAlphabet.letters c hc))
  · exact .inr (.inr (List.eq_of_mem_replicate hc))

lemma EncodesText.not_mem {s text : Str} (h : EncodesText s text) {c : Char}
    (hc : decide (c ∉ '='::(base64Alphabet++base64UrlAlphabet)) = true) : c ∉ s := by
  intro hmem
  have hnot := of_decide_eq_true hc
  simp only [List.mem_cons,List.mem_append,not_or] at hnot
  obtain h | h | h := h.chars c hmem
  · exact hnot.2.1 h
  · exact hnot.2.2 h
  · exact hnot.1 h

lemma EncodesText.noSpace {s text : Str} (h : EncodesText s text) : ∀ c ∈ s, isWhitespace c = false := by
  have hall : ('='::(base64Alphabet++base64UrlAlphabet)).all (fun c => decide (isWhitespace c = false)) = true := by
    decide
  intro c hc
  refine of_decide_eq_true (List.all_eq_true.mp hall c ?_)
  obtain h | h | h := h.chars c hc
  · exact List.mem_cons_of_mem _ (List.mem_append_left _ h)
  · exact List.mem_cons_of_mem _ (List.mem_append_right _ h)
  · exact h ▸ List.mem_cons_self

section
variable {env : LinkExternals} {s text : Str}

lemma decodeBase64Text_eq_some_iff (h : CratesDecode env) :
    decodeBase64Text env s=some text ↔ EncodesText (withoutSpace s) text := by
  rw [decodeBase64Text,h.standard,h.urlSafe,EncodesText,← base64Alphabet_isAlphabet.decode_eq_some_iff,
    ← base64UrlAlphabet_isAlphabet.decode_eq_some_iff]
  have hread : ∀ alphabet, (base64Decode alphabet (withoutSpace s)).bind fromUtf8=some text ↔
      base64Decode alphabet (withoutSpace s)=some (utf8 text) := by
    intro alphabet
    rw [Option.bind_eq_some_iff]
    constructor
    · rintro ⟨bytes,hbytes,htext⟩
      rw [hbytes,utf8_of_fromUtf8 htext]
    · exact fun hbytes => ⟨_,hbytes,fromUtf8_utf8 text⟩
  change ((base64Decode base64Alphabet (withoutSpace s)).bind fromUtf8).or
    ((base64Decode base64UrlAlphabet (withoutSpace s)).bind fromUtf8)=some text ↔ _
  rw [Option.or_eq_some_iff,hread,hread]
  refine ⟨Or.imp_right And.right,?_⟩
  rintro (hstandard | hurl)
  · exact .inl hstandard
  · cases hstandard : base64Decode base64Alphabet (withoutSpace s) with
    | none => exact .inr ⟨rfl,hurl⟩
    | some bytes =>
      rw [base64Decode_agree hstandard hurl]
      exact .inl rfl

lemma EncodesText.decode (hdecode : CratesDecode env) (h : EncodesText s text) : decodeBase64Text env s=some text := by
  rw [decodeBase64Text_eq_some_iff hdecode,withoutSpace_self h.noSpace]
  exact h

/-- A text with a sign that is in no alphabet decodes to nothing. -/
lemma decodeBase64Text_none (h : CratesDecode env) {c : Char} (hmem : c ∈ s)
    (hc : decide (c ∉ '='::(base64Alphabet++base64UrlAlphabet) ∧ isWhitespace c = false) = true) :
    decodeBase64Text env s=none := by
  have hc' := of_decide_eq_true hc
  rw [Option.eq_none_iff_forall_ne_some]
  intro text htext
  rw [decodeBase64Text_eq_some_iff h] at htext
  refine htext.not_mem (decide_eq_true hc'.1) (List.mem_filter.mpr ⟨hmem,?_⟩)
  rw [hc'.2]
  rfl

/-- A text with an escape is no base64, and any other is decoded the same before and after. -/
lemma decodeBase64Text_or (h : CratesDecode env) (s : Str) :
    (decodeBase64Text env s).or (decodeBase64Text env (decodeUrlComponent env s))=
      decodeBase64Text env (decodeUrlComponent env s) := by
  rw [decodeUrlComponent,h.percent]
  by_cases hmem : '%' ∈ s
  · rw [decodeBase64Text_none h hmem (by decide),Option.none_or]
  · rw [percentDecode_self (not_hasEscape hmem),Option.or_self]

lemma splitCredentials_append (h : CratesDecode env) {user : Str} (hcolon : ':' ∉ user) (password : Str) :
    splitCredentials env (user++ ':'::password)=some (percentDecode user,percentDecode password) := by
  rw [splitCredentials,splitOnce_append hcolon,Option.map_some,decodeUrlComponent,decodeUrlComponent,h.percent]

end

/-! Reading a link -/

lemma trimStartMatchesStr_self {pre s : Str} (h : pre.isPrefixOf s = false) (fuel : ℕ) :
    trimStartMatchesStr pre fuel s=s := by
  cases fuel with
  | zero => rfl
  | succ fuel => rw [trimStartMatchesStr,stripPrefixStr,h]; rfl

lemma trimStartMatchesStr_once {pre s : Str} (h : pre.isPrefixOf s = false) (fuel : ℕ) :
    trimStartMatchesStr pre (fuel+1) (pre++s)=s := by
  have hpre : pre.isPrefixOf (pre++s) = true := List.isPrefixOf_iff_prefix.mpr (List.prefix_append _ _)
  rw [trimStartMatchesStr,stripPrefixStr,hpre,if_pos rfl,List.drop_left]
  exact trimStartMatchesStr_self h fuel

section
variable {env : LinkExternals}

lemma parseProxyUrl_ss {rest : Str} (hnoSpace : ∀ c ∈ "ss://".toList++rest, isWhitespace c = false) :
    parseProxyUrl env ("ss://".toList++rest)=
      (parseShadowsocksUrl env ("ss://".toList++rest)).map (fun p => some (.shadowsocks p.1 p.2)) := by
  have hne : "ss://".toList++rest ≠ [] := List.append_ne_nil_of_left_ne_nil (by decide) rest
  have hss : "ss://".toList.isPrefixOf ("ss://".toList++rest) = true :=
    List.isPrefixOf_iff_prefix.mpr (List.prefix_append _ _)
  unfold parseProxyUrl
  simp only [trim_eq_self hnoSpace,if_neg hne,hss,if_true]

/-- A link whose address the URL crate reads. -/
lemma parseShadowsocksUrl_url {line host method password : Str} {port : UInt16} {url : Url}
    (hurl : env.parseUrl line=some url) (hhost : url.hostStr=some host) (hport : url.port=some port)
    (hcredentials : ssCredentialsFromUrl env url = .ok (method,password)) : ∃ label, parseShadowsocksUrl env line=
      (shadowsocksServer env host port method password).map (fun server => (server,label)) := by
  have hfilter : (some url).filter (fun url => url.hostStr.isSome && url.port.isSome)=some url := by
    rw [Option.filter_some,hhost,hport]
    rfl
  have hserver : requiredHost url "ss".toList = .ok host := by rw [requiredHost,hhost]
  have hrequired : requiredPort url "ss".toList = .ok port := by rw [requiredPort,hport]
  unfold parseShadowsocksUrl
  simp only [hurl,hfilter,hserver,hrequired,hcredentials]
  exact ⟨_,rfl⟩

/-- The older form, which is base64 as a whole. -/
lemma parseShadowsocksUrl_encoded {encoded decoded : Str} {method password host : Str} {port : UInt16}
    (hchars : ∀ c ∈ encoded, c ∉ [':','#','?'])
    (hurl : ∀ url ∈ env.parseUrl ("ss://".toList++encoded), url.port=none)
    (hdecoded : decodeBase64Text env encoded=some decoded)
    (hauthority : parseSsLegacyAuthority env decoded = .ok (method,password,host,port)) : ∃ label,
      parseShadowsocksUrl env ("ss://".toList++encoded)=
        (shadowsocksServer env host port method password).map (fun server => (server,label)) := by
  have hpre : "ss://".toList.isPrefixOf encoded = false := by
    rw [Bool.eq_false_iff]
    intro hpre
    have hcolon : ':' ∈ encoded := (List.isPrefixOf_iff_prefix.mp hpre).subset (by decide)
    exact hchars _ hcolon (by decide)
  have hfilter : (env.parseUrl ("ss://".toList++encoded)).filter
      (fun url => url.hostStr.isSome && url.port.isSome)=none := by
    rw [Option.filter_eq_none_iff]
    intro url hurl'
    simp [hurl url hurl']
  have hpiece : ∀ d ∈ ['#','?'], firstPiece [d] encoded=encoded := by
    intro d hd
    refine firstPiece_self fun c hc hmem => hchars c hc ?_
    rw [List.mem_singleton.mp hmem]
    exact List.mem_cons_of_mem _ hd
  have hlen : ("ss://".toList++encoded).length=4+encoded.length+1 := by
    rw [List.length_append]
    change 5+_=_
    omega
  unfold parseShadowsocksUrl
  simp only [hfilter,hlen,trimStartMatchesStr_once hpre,hpiece '#' (by decide),hpiece '?' (by decide),hdecoded,hauthority]
  exact ⟨_,rfl⟩

end

/-! The forms -/

/-- The user information in base64, all of it in base64, or percent-encoded; of the last one the colon may be
encoded too. -/
inductive SecretForm
  | userinfo (encoded : Str)
  | whole (encoded : Str)
  | percent (user : Str) (secret : Option Str)

structure SecretLink where
  method : Str
  kind : CipherKind
  password : Str
  host : Str
  port : UInt16
  form : SecretForm

namespace SecretLink
variable (link : SecretLink)

def authority : Str := link.host++ ':'::decimal link.port.toNat

def credentials : Str := link.method++ ':'::link.password

def userinfoText (user : Str) (secret : Option Str) : Str := match secret with
  | some secret => user++ ':'::secret
  | none => user

def text : Str := match link.form with
  | .userinfo encoded => "ss://".toList++(encoded++ '@'::link.authority)
  | .whole encoded => "ss://".toList++encoded
  | .percent user secret => "ss://".toList++(userinfoText user secret++ '@'::link.authority)

/-- The URL crate does not know the scheme, so it keeps every port and every spelling of a host. -/
def url (username : Str) (password : Option Str) : Url where
  scheme := "ss".toList
  username := username
  password := password
  hostStr := some link.host
  port := some link.port
  portOrKnownDefault := some link.port
  path := []
  query := none
  queryPairs := []
  fragment := none
  asStr := "ss://".toList++(userinfoText username password++ '@'::link.authority)

/-- In a user name the URL crate escapes the padding. -/
def escapePadding (s : Str) : Str := s.flatMap (fun c => if c = '=' then "%3D".toList else [c])

/-- The form is made of the secret, and the URL crate reads it. -/
def Formed (env : LinkExternals) : Prop := match link.form with
  | .userinfo encoded => IsBase64Of base64UrlAlphabet encoded (utf8 link.credentials) ∧
    env.parseUrl link.text=some (link.url (escapePadding encoded) none)
  | .whole encoded => IsBase64Of base64UrlAlphabet encoded (utf8 (link.credentials++ '@'::link.authority)) ∧
    ∀ url ∈ env.parseUrl link.text, url.port=none
  | .percent user secret => (∀ c ∈ user, isPlain c = true) ∧ (∀ s ∈ secret, ∀ c ∈ s, isPlain c = true) ∧
    percentDecode user=(if secret.isSome then link.method else link.credentials) ∧
    (∀ s ∈ secret, percentDecode s=link.password) ∧ env.parseUrl link.text=some (link.url user secret)

structure Valid (env : LinkExternals) : Prop where
  cipher : env.cipherKindFromStr (normalizeSsCipher link.method)=some link.kind
  password : link.password ≠ []
  host : link.host ≠ [] ∧ ∀ c ∈ link.host, isPlain c = true
  port : link.port ≠ 0
  formed : link.Formed env

/-- What the crate for Shadowsocks does: its names of ciphers are plain words, and of a password it keeps all, or
the part behind the identity keys. -/
structure Crate (env : LinkExternals) : Prop where
  cipherKindFromStr : ∀ name kind, env.cipherKindFromStr name=some kind → ∀ c ∈ name, c ∉ [':','%']
  serverConfigNew : ∀ host port password kind server, env.serverConfigNew host port password kind=some server →
    server.password <:+ password

/-- The link gives a server with this host, port, cipher and password. -/
def Survives (env : LinkExternals) : Prop := ∃ label, parseProxyUrl env link.text =
  .ok (some (.shadowsocks ⟨link.host,link.port,link.password,link.kind,[]⟩ label))

/-! What each form gives -/

variable {link : SecretLink} {env : LinkExternals}

/-- Only the form with a literal colon is decoded once. -/
def stored : Str := match link.form with
  | .percent _ (some _) => link.password
  | _ => percentDecode link.password

lemma method_chars (hcrate : Crate env) (h : link.Valid env) : ∀ c ∈ link.method, c ∉ [':','%'] := by
  intro c hc hsign
  have hlower : ∀ d ∈ [':','%'], d ∈ link.method → d ∈ toAsciiLowercase link.method := by
    intro d hd hmem
    have hself : asciiLowercase d=d := by
      simp only [List.mem_cons,List.not_mem_nil,or_false] at hd
      obtain rfl | rfl := hd <;> rfl
    exact List.mem_map.mpr ⟨d,hmem,hself⟩
  have hmem := hlower c hsign hc
  have hname := hcrate.cipherKindFromStr _ _ h.cipher
  unfold normalizeSsCipher at hname
  dsimp only at hname
  split_ifs at hname with hchacha
  · rw [hchacha] at hmem
    have hall : "chacha20-poly1305".toList.all (fun c => decide (c ∉ [':','%'])) = true := by decide
    exact of_decide_eq_true (List.all_eq_true.mp hall c hmem) hsign
  · exact hname c hmem hsign

lemma splitCredentials_eq (hdecode : CratesDecode env) (hcrate : Crate env) (h : link.Valid env) :
    splitCredentials env link.credentials=some (link.method,percentDecode link.password) := by
  have hchars := method_chars hcrate h
  have hmethod : percentDecode link.method=link.method :=
    percentDecode_self (not_hasEscape fun hmem => hchars _ hmem (by decide))
  rw [credentials,splitCredentials_append hdecode fun hmem => hchars _ hmem (by decide),hmethod]

lemma colon_notMem_host (h : link.Valid env) : ':' ∉ link.host := plain_not_mem h.host.2 (by decide)

lemma at_notMem_authority (h : link.Valid env) : '@' ∉ link.authority := by
  have hhost : '@' ∉ link.host := plain_not_mem h.host.2 (by decide)
  have hport : '@' ∉ decimal link.port.toNat := plain_not_mem (digits_plain _) (by decide)
  simp [authority,hhost,hport]

lemma splitHostPort_authority (h : link.Valid env) :
    splitHostPort link.authority = .ok (link.host,link.port) := by
  have hport : parsePort (decimal link.port.toNat) = .ok link.port := by rw [parsePort,parseU16_decimal]
  have hcolon : ':' ∉ decimal link.port.toNat := plain_not_mem (digits_plain _) (by decide)
  have hstrip : stripPrefix '[' link.authority=none := by
    obtain ⟨c,cs,hhost⟩ := List.exists_cons_of_ne_nil h.host.1
    rw [authority,hhost,List.cons_append,stripPrefix,if_neg]
    rintro rfl
    exact plain_not_mem h.host.2 (by decide) (hhost ▸ List.mem_cons_self)
  have hno := colon_notMem_host h
  rw [splitHostPort,hstrip]
  dsimp only
  rw [authority,rsplitOnce_append hcolon,Option.filter_some,if_pos (by simp [hno])]
  dsimp only
  rw [hport]
  rfl

lemma percentDecode_escapePadding {s : Str} (h : '%' ∉ s) : percentDecode (escapePadding s)=s := by
  induction s with
  | nil => rfl
  | cons c s ih =>
    have hrest := ih fun hmem => h (List.mem_cons_of_mem _ hmem)
    rw [escapePadding,List.flatMap_cons,← escapePadding]
    split_ifs with hc
    · have hbyte : escapeByte '%' '3' 'D'=some 61 := by decide
      have hcons : percentDecode ("%3D".toList++escapePadding s) = '='::percentDecode (escapePadding s) := by
        have hascii := fromUtf8Lossy_ascii (b := 61) (by decide) (percentBytes (escapePadding s))
        exact (congrArg fromUtf8Lossy (percentBytes_escape hbyte _)).trans hascii
      rw [hcons,hrest,hc]
    · have hplain : ∀ x y rest, escapePadding s=x::y::rest → escapeByte c x y=none := by
        intro x y rest _
        rw [escapeByte,if_neg]
        rintro rfl
        exact h List.mem_cons_self
      rw [List.singleton_append,percentDecode_plain hplain,hrest]

/-- What the parser takes for the cipher and the password. -/
lemma ssCredentialsFromUrl_encoded (hdecode : CratesDecode env) (hcrate : Crate env) (h : link.Valid env) {user : Str}
    (huser : decodeBase64Text env (percentDecode user)=some link.credentials ∨
      decodeBase64Text env (percentDecode user)=none ∧ percentDecode user=link.credentials) :
    ssCredentialsFromUrl env (link.url user none) = .ok (link.method,percentDecode link.password) := by
  have hor := decodeBase64Text_or hdecode user
  rw [decodeUrlComponent,hdecode.percent] at hor
  have hget : (decodeBase64Text env (percentDecode user)).getD (percentDecode user)=link.credentials := by
    obtain hsome | ⟨hnone,heq⟩ := huser
    · rw [hsome,Option.getD_some]
    · rw [hnone,Option.getD_none,heq]
  have hsplit : splitCredentials env (((decodeBase64Text env user).or (decodeBase64Text env
      (decodeUrlComponent env user))).getD (decodeUrlComponent env user)) = some (link.method,percentDecode link.password) := by
    rw [decodeUrlComponent,hdecode.percent,hor,hget,splitCredentials_eq hdecode hcrate h]
  have husername : (link.url user none).username=user := rfl
  have hpassword : (link.url user none).password=none := rfl
  simp only [ssCredentialsFromUrl,husername,hpassword,hsplit]

lemma text_noSpace (h : link.Valid env) : ∀ c ∈ link.text, isWhitespace c = false := by
  have hplain : ∀ s : Str, (∀ c ∈ s, isPlain c = true) → ∀ c ∈ s, isWhitespace c = false :=
    fun s hs c hc => isPlain_not_space (hs c hc)
  have hhead : ∀ c ∈ "ss://".toList, isWhitespace c = false := by simp [isWhitespace]
  have hauthority : ∀ c ∈ '@'::link.authority, isWhitespace c = false := by
    rw [authority]
    simp only [List.forall_mem_cons,List.forall_mem_append]
    exact ⟨by decide,hplain _ h.host.2,by decide,hplain _ (digits_plain _)⟩
  have hform := h.formed
  unfold Formed at hform
  unfold text
  cases hlink : link.form with
  | userinfo encoded =>
    rw [hlink] at hform
    simp only [List.forall_mem_append]
    exact ⟨hhead,EncodesText.noSpace (.inr hform.1),hauthority⟩
  | whole encoded =>
    rw [hlink] at hform
    simp only [List.forall_mem_append]
    exact ⟨hhead,EncodesText.noSpace (.inr hform.1)⟩
  | percent user secret =>
    rw [hlink] at hform
    simp only [List.forall_mem_append]
    refine ⟨hhead,?_,hauthority⟩
    cases secret with
    | none => exact hplain _ hform.1
    | some secret =>
      simp only [userinfoText,List.forall_mem_append,List.forall_mem_cons]
      exact ⟨hplain _ hform.1,by decide,hplain _ (hform.2.1 secret rfl)⟩

/-- The text inside the older form is taken apart where it was put together. -/
lemma parseSsLegacyAuthority_eq (hdecode : CratesDecode env) (hcrate : Crate env) (h : link.Valid env) :
    parseSsLegacyAuthority env (link.credentials++ '@'::link.authority) =
      .ok (link.method,percentDecode link.password,link.host,link.port) := by
  unfold parseSsLegacyAuthority
  simp only [rsplitOnce_append (at_notMem_authority h),splitCredentials_eq hdecode hcrate h,splitHostPort_authority h]
  rfl

lemma parseShadowsocksUrl_eq (hdecode : CratesDecode env) (hcrate : Crate env) (h : link.Valid env) :
    ∃ label, parseShadowsocksUrl env link.text=
      (shadowsocksServer env link.host link.port link.method link.stored).map (fun server => (server,label)) := by
  have hform := h.formed
  unfold Formed at hform
  unfold stored
  cases hlink : link.form with
  | userinfo encoded =>
    rw [hlink] at hform
    obtain ⟨hencoded,hurl⟩ := hform
    have hencodes : EncodesText encoded link.credentials := .inr hencoded
    have hdecoded : decodeBase64Text env (percentDecode (escapePadding encoded))=some link.credentials := by
      rw [percentDecode_escapePadding (hencodes.not_mem (by decide))]
      exact hencodes.decode hdecode
    exact parseShadowsocksUrl_url hurl rfl rfl (ssCredentialsFromUrl_encoded hdecode hcrate h (.inl hdecoded))
  | whole encoded =>
    rw [hlink] at hform
    obtain ⟨hencoded,hurl⟩ := hform
    have htext : link.text="ss://".toList++encoded := by rw [text,hlink]
    have hencodes : EncodesText encoded (link.credentials++ '@'::link.authority) := .inr hencoded
    have hdecoded := hencodes.decode hdecode
    have hchars : ∀ c ∈ encoded, c ∉ [':','#','?'] := by
      intro c hc hsign
      simp only [List.mem_cons,List.not_mem_nil,or_false] at hsign
      obtain rfl | rfl | rfl := hsign
      all_goals exact hencodes.not_mem (by decide) hc
    rw [htext] at hurl ⊢
    exact parseShadowsocksUrl_encoded hchars hurl hdecoded (parseSsLegacyAuthority_eq hdecode hcrate h)
  | percent user secret =>
    rw [hlink] at hform
    obtain ⟨-,-,huser,hsecret,hurl⟩ := hform
    cases secret with
    | some secret =>
      have hcredentials : ssCredentialsFromUrl env (link.url user (some secret)) = .ok (link.method,link.password) := by
        rw [← hsecret secret rfl,← (show percentDecode user=link.method from huser),← hdecode.percent]
        rfl
      exact parseShadowsocksUrl_url hurl rfl rfl hcredentials
    | none =>
      have hcolon : ':' ∈ link.credentials := List.mem_append_right _ List.mem_cons_self
      have hnone : decodeBase64Text env (percentDecode user)=none := by
        rw [huser]
        exact decodeBase64Text_none hdecode hcolon (by decide)
      exact parseShadowsocksUrl_url hurl rfl rfl (ssCredentialsFromUrl_encoded hdecode hcrate h (.inr ⟨hnone,huser⟩))

lemma parseProxyUrl_eq (hdecode : CratesDecode env) (hcrate : Crate env) (h : link.Valid env) : ∃ label,
    parseProxyUrl env link.text=match env.serverConfigNew link.host link.port link.stored link.kind with
      | some server => .ok (some (.shadowsocks server label))
      | none => .error foreignError := by
  obtain ⟨label,hparse⟩ := parseShadowsocksUrl_eq hdecode hcrate h
  have hnoSpace := text_noSpace h
  obtain ⟨rest,htext⟩ : ∃ rest, link.text="ss://".toList++rest := by
    unfold text
    split <;> exact ⟨_,rfl⟩
  rw [shadowsocksServer,h.cipher] at hparse
  dsimp only at hparse
  rw [htext] at hparse hnoSpace ⊢
  rw [parseProxyUrl_ss hnoSpace,hparse]
  refine ⟨label,?_⟩
  cases env.serverConfigNew link.host link.port link.stored link.kind <;> rfl

lemma survives_iff_stored (hdecode : CratesDecode env) (hcrate : Crate env) (h : link.Valid env) :
    link.Survives env ↔ env.serverConfigNew link.host link.port link.stored link.kind=
      some ⟨link.host,link.port,link.password,link.kind,[]⟩ := by
  obtain ⟨label,hparse⟩ := parseProxyUrl_eq hdecode hcrate h
  rw [Survives,hparse]
  cases env.serverConfigNew link.host link.port link.stored link.kind with
  | none => simp
  | some server => simp

/-- A password survives if the crate takes it for its cipher and it has no escape in it. Any password has none left
in the percent-encoded form with a literal colon. -/
theorem survives_iff (hdecode : CratesDecode env) (hcrate : Crate env) (h : link.Valid env) :
    link.Survives env ↔
      env.serverConfigNew link.host link.port link.password link.kind=
        some ⟨link.host,link.port,link.password,link.kind,[]⟩ ∧
      ((∃ user secret, link.form = .percent user (some secret)) ∨ ¬HasEscape link.password) := by
  rw [survives_iff_stored hdecode hcrate h]
  by_cases hform : ∃ user secret, link.form = .percent user (some secret)
  · have hstored : link.stored=link.password := by
      obtain ⟨user,secret,hform⟩ := hform
      rw [stored,hform]
    rw [hstored,and_iff_left (.inl hform)]
  · have hstored : link.stored=percentDecode link.password := by
      unfold stored
      split
      · next user secret hlink => exact absurd ⟨user,secret,hlink⟩ hform
      · rfl
    rw [or_iff_right hform,hstored]
    by_cases hescape : HasEscape link.password
    · refine iff_of_false (fun hserver => ?_) fun hand => hand.2 hescape
      have hle : link.password.length ≤ (percentDecode link.password).length :=
        (hcrate.serverConfigNew _ _ _ _ _ hserver).length_le
      have hlt := percentDecode_length_lt hescape
      omega
    · rw [percentDecode_self hescape,and_iff_left hescape]

/-! The password `a%41`, and the password `p@ss` in a percent-encoded link -/

/-- base64 of `aes-256-gcm:a%41` -/
def escapedSecret : SecretLink where
  method := "aes-256-gcm".toList
  kind := ⟨"aes-256-gcm".toList⟩
  password := ['a','%','4','1']
  host := "example.com".toList
  port := 8388
  form := .userinfo "YWVzLTI1Ni1nY206YSU0MQ".toList

/-- `p@ss` in a percent-encoded link -/
def colonSecret : SecretLink where
  method := "aes-256-gcm".toList
  kind := ⟨"aes-256-gcm".toList⟩
  password := ['p','@','s','s']
  host := "example.com".toList
  port := 8388
  form := .percent "aes-256-gcm".toList (some ['p','%','4','0','s','s'])

/-- Crates that read these two links. -/
def secretExternals : LinkExternals where
  toExternals := {sampleExternals with
    cipherKindFromStr := fun name => if name="aes-256-gcm".toList then some ⟨name⟩ else none
    serverConfigNew := fun host port password kind => some ⟨host,port,password,kind,[]⟩}
  parseUrl text :=
    if text=escapedSecret.text then some (escapedSecret.url "YWVzLTI1Ni1nY206YSU0MQ".toList none)
    else if text=colonSecret.text then
      some (colonSecret.url "aes-256-gcm".toList (some ['p','%','4','0','s','s']))
    else none
  percentDecode := percentDecode
  base64Standard := base64Decode base64Alphabet
  base64UrlSafe := base64Decode base64UrlAlphabet
  formParse _ := []
  vmessFromJson _ := none

lemma secretExternals_decode : CratesDecode secretExternals := by
  constructor <;> simp only [secretExternals]

lemma secretExternals_crate : Crate secretExternals := by
  refine ⟨fun name kind h => ?_,fun host port password kind server h => ?_⟩
  · have hname : (if name="aes-256-gcm".toList then some (CipherKind.mk name) else none)=some kind := h
    split_ifs at hname with heq
    rw [heq]
    simp
  · cases h
    exact List.suffix_rfl

lemma escapedSecret_valid : escapedSecret.Valid secretExternals := by
  have hhost : ∀ c ∈ escapedSecret.host, isPlain c = true := List.all_eq_true.mp rfl
  refine ⟨rfl,List.cons_ne_nil _ _,⟨List.cons_ne_nil _ _,hhost⟩,by decide,⟨0,Nat.zero_le _,?_⟩,?_⟩
  · decide
  · rfl

lemma colonSecret_valid : colonSecret.Valid secretExternals := by
  have hhost : ∀ c ∈ colonSecret.host, isPlain c = true := List.all_eq_true.mp rfl
  have huser : ∀ c ∈ "aes-256-gcm".toList, isPlain c = true := List.all_eq_true.mp rfl
  refine ⟨rfl,List.cons_ne_nil _ _,⟨List.cons_ne_nil _ _,hhost⟩,by decide,huser,?_,?_,?_,rfl⟩
  · intro s hs
    cases hs
    exact List.all_eq_true.mp rfl
  · exact percentDecode_self (not_hasEscape (by decide))
  · intro s hs
    cases hs
    decide

theorem survives_colon : colonSecret.Survives secretExternals ↔
    secretExternals.serverConfigNew colonSecret.host colonSecret.port colonSecret.password colonSecret.kind=
      some ⟨colonSecret.host,colonSecret.port,colonSecret.password,colonSecret.kind,[]⟩ ∧
    ((∃ user secret, colonSecret.form = .percent user (some secret)) ∨ ¬HasEscape colonSecret.password) :=
  survives_iff secretExternals_decode secretExternals_crate colonSecret_valid

/-- The password `a%41` comes out as `aA`. -/
theorem escaped_password_decoded_twice : escapedSecret.Valid secretExternals ∧
    (∃ label, parseProxyUrl secretExternals escapedSecret.text = .ok (some (.shadowsocks
      ⟨"example.com".toList,8388,['a','A'],⟨"aes-256-gcm".toList⟩,[]⟩ label))) ∧
    ¬escapedSecret.Survives secretExternals := by
  have hstored : escapedSecret.stored=['a','A'] := by
    change percentDecode ['a','%','4','1']=['a','A']
    decide
  refine ⟨escapedSecret_valid,?_,?_⟩
  · obtain ⟨label,hparse⟩ := parseProxyUrl_eq secretExternals_decode secretExternals_crate escapedSecret_valid
    rw [hstored] at hparse
    exact ⟨label,hparse⟩
  · rw [survives_iff_stored secretExternals_decode secretExternals_crate escapedSecret_valid,hstored]
    intro h
    have hpassword : ['a','A']=['a','%','4','1'] := congrArg ServerConfig.password (Option.some.inj h)
    cases hpassword

end SecretLink

end RotatorProxy.Link
