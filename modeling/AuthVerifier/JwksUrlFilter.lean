import AuthVerifier.KubernetesRoles
import AuthVerifier.Lib.UrlHost

/-!
Which hosts the keys of a role may be fetched from. The filter of `k8s_create_role` looks for an
address in the text of the URL; the client that fetches the keys resolves the same text as a URL.
-/

set_option autoImplicit false

namespace AuthVerifier
open Effects Relational

namespace Kubernetes

def internalV4 (v : Ip.V4) : Bool :=
  v.isLoopback || v.isPrivate || v.isLinkLocal || v.isUnspecified

/-- Loopback, private, link-local and unspecified addresses, and IPv6 addresses that stand for one. -/
def internal : Ip.Addr → Bool
  | .v4 v => internalV4 v
  | .v6 v => v.isLoopback || v.isUniqueLocal || v.isUnicastLinkLocal || v.isUnspecified ||
      v.mapped?.any internalV4

def ContactsInternal (toAscii : List UInt8 → Option (List Char)) (url : String) : Prop :=
  ∃ address, UrlHost.host toAscii url.toList = some (.address address) ∧ internal address = true

instance (toAscii : List UInt8 → Option (List Char)) (url : String) :
    Decidable (ContactsInternal toAscii url) :=
  decidable_of_iff (((UrlHost.host toAscii url.toList).any fun
      | .address address => internal address
      | .domain _ => false) = true) <| by
    unfold ContactsInternal
    cases UrlHost.host toAscii url.toList with
    | none => simp
    | some host => cases host <;> simp

def AtPath (cs : List Char) : Prop := cs = [] ∨ ∃ path, cs = '/' :: path

/-- A private address in plain syntax right after `https://`, which may be repeated, then possibly a
colon and a port, and then nothing or a path. -/
def PlainlyPrivate (url : String) : Prop :=
  ∃ n host rest, url.toList = (List.replicate (n + 1) httpsPrefix).flatten ++ (host ++ rest) ∧
    (∃ address, Ip.parse? host = some address ∧ isPrivateIp address = true) ∧
    ((':' ∉ host ∧ AtPath rest) ∨
      ∃ port path, rest = ':' :: (port ++ path) ∧ ':' ∉ port ∧ '/' ∉ port ∧ AtPath path)

theorem httpsPrefix_ne_nil : httpsPrefix ≠ [] := by decide

theorem not_mem_of_isAddrChar {host : List Char} {address : Ip.Addr}
    (h : Ip.parse? host = some address) {c : Char} (hc : Ip.isAddrChar c = false) : c ∉ host := by
  intro hmem
  rw [Ip.isAddrChar_of_parse? h c hmem] at hc
  cases hc

theorem not_prefix_of_parse? {host : List Char} {address : Ip.Addr}
    (h : Ip.parse? host = some address) (rest : List Char) : ¬ httpsPrefix <+: host ++ rest := by
  rintro ⟨tail, htail⟩
  cases host with
  | nil => exact Ip.ne_nil_of_parse? h rfl
  | cons c host =>
    have hc : 'h' = c := (List.cons.inj htail).1
    exact not_mem_of_isAddrChar h (c := 'h') (by decide) (hc ▸ List.mem_cons_self)

theorem takeWhile_ne_of_atPath {cs path : List Char} (hcs : '/' ∉ cs) (hpath : AtPath path) :
    (cs ++ path).takeWhile (fun c => c != '/') = cs := by
  have hall : ∀ c ∈ cs, (c != '/') = true := by
    intro c hc
    rw [bne_iff_ne]
    rintro rfl
    exact hcs hc
  rw [List.takeWhile_append_of_pos hall]
  rcases hpath with rfl | ⟨path, rfl⟩
  · rw [List.takeWhile_nil, List.append_nil]
  · rw [List.takeWhile_cons_of_neg (by simp), List.append_nil]

theorem split_path (cs : List Char) : ∃ path, cs = (Text.splitAll '/' cs).headD [] ++ path ∧
    '/' ∉ (Text.splitAll '/' cs).headD [] ∧ AtPath path := by
  rw [Text.headD_splitAll]
  refine ⟨cs.dropWhile (fun c => c != '/'), List.takeWhile_append_dropWhile.symm, ?_, ?_⟩
  · intro hmem
    simpa using List.all_eq_true.mp List.all_takeWhile _ hmem
  · cases hrest : cs.dropWhile (fun c => c != '/') with
    | nil => exact .inl rfl
    | cons c path =>
      have hhead := List.head?_dropWhile_not (fun c => c != '/') cs
      rw [hrest] at hhead
      have hc : c = '/' := by simpa using hhead
      exact .inr ⟨path, by rw [hc]⟩

theorem pointsToPrivateIp_iff {url : String} (h : httpsPrefix <+: url.toList) :
    pointsToPrivateIp url = true ↔ PlainlyPrivate url := by
  have hfound {host : List Char} : ((Ip.parse? host).map isPrivateIp).getD false = true ↔
      ∃ address, Ip.parse? host = some address ∧ isPrivateIp address = true := by
    cases Ip.parse? host <;> simp
  unfold pointsToPrivateIp
  rw [hfound]
  constructor
  · intro hprivate
    obtain ⟨⟨m, hm⟩, hstop⟩ := Text.trimStartMatches_spec httpsPrefix_ne_nil url.toList
    obtain ⟨path, hleft, hslash, hpath⟩ :=
      split_path (Text.trimStartMatches httpsPrefix url.toList)
    simp only [filteredHost] at hprivate
    generalize Text.trimStartMatches httpsPrefix url.toList = left at hm hstop hleft hslash hprivate
    generalize (Text.splitAll '/' left).headD [] = first at hleft hslash hprivate
    subst hleft
    cases m with
    | zero => exact absurd (show httpsPrefix <+: first ++ path from hm ▸ h) hstop
    | succ n =>
      cases hport : Text.rsplitOnce ':' first with
      | none =>
        simp only [hport] at hprivate
        exact ⟨n, first, path, hm, hprivate, .inl ⟨Text.rsplitOnce_eq_none_iff.mp hport, hpath⟩⟩
      | some parts =>
        obtain ⟨host, port⟩ := parts
        simp only [hport] at hprivate
        obtain ⟨rfl, hcolon⟩ := Text.rsplitOnce_eq_some_iff.mp hport
        have hslashPort : '/' ∉ port := fun hmem => hslash (by simp [hmem])
        exact ⟨n, host, ':' :: (port ++ path), by rw [hm, List.append_assoc, List.cons_append],
          hprivate, .inr ⟨port, path, rfl, hcolon, hslashPort, hpath⟩⟩
  · rintro ⟨n, host, rest, hurl, ⟨address, hparse, hprivate⟩, hrest⟩
    have hslash : '/' ∉ host := not_mem_of_isAddrChar hparse (by decide)
    have hleft : Text.trimStartMatches httpsPrefix url.toList = host ++ rest := by
      rw [hurl]
      exact Text.trimStartMatches_eq httpsPrefix_ne_nil _ (not_prefix_of_parse? hparse rest)
    suffices hhost : filteredHost url.toList = host from ⟨address, hhost ▸ hparse, hprivate⟩
    rw [filteredHost, hleft, Text.headD_splitAll]
    rcases hrest with ⟨hcolon, hpath⟩ | ⟨port, path, rfl, hcolon, hslashPort, hpath⟩
    · rw [takeWhile_ne_of_atPath hslash hpath, Text.rsplitOnce_eq_none_iff.mpr hcolon]
    · have hfirst : '/' ∉ host ++ ':' :: port := by simp [hslash, hslashPort]
      have hsplit : host ++ ':' :: (port ++ path) = (host ++ ':' :: port) ++ path := by simp
      rw [hsplit, takeWhile_ne_of_atPath hfirst hpath,
        Text.rsplitOnce_eq_some_iff.mpr ⟨rfl, hcolon⟩]

section
variable {toAscii : List UInt8 → Option (List Char)}

theorem endsAuthority_of_atPath {cs : List Char} (h : AtPath cs) :
    (UrlHost.trimmed cs).takeWhile (fun c => !UrlHost.endsAuthority c) = [] := by
  rcases h with rfl | ⟨path, rfl⟩
  · rfl
  · have hslash : UrlHost.trimmed ('/' :: path) = '/' :: UrlHost.trimmed path :=
      UrlHost.trimmed_append_cons (by decide) [] path
    rw [hslash, List.takeWhile_cons_of_neg (by decide)]

theorem colon_notMem_authority {port path : List Char} (hport : ':' ∉ port) (hpath : AtPath path) :
    ':' ∉ (UrlHost.trimmed (port ++ path)).takeWhile (fun c => !UrlHost.endsAuthority c) := by
  intro hmem
  rcases hpath with rfl | ⟨path, rfl⟩
  · have hin := UrlHost.mem_of_mem_trimmed ((List.takeWhile_prefix _).subset hmem)
    exact hport (by simpa using hin)
  · have hstop : ('/' :: UrlHost.trimmed path).takeWhile (fun c => !UrlHost.endsAuthority c) = [] :=
      List.takeWhile_cons_of_neg (by decide)
    rw [UrlHost.trimmed_append_cons (by decide), List.takeWhile_append, hstop, List.append_nil] at hmem
    split at hmem
    · exact hport (List.mem_filter.mp hmem).1
    · exact hport (List.mem_filter.mp ((List.takeWhile_prefix _).subset hmem)).1

theorem not_plainlyPrivate_of_v6 {url : String} {v : Ip.V6}
    (h : UrlHost.host toAscii url.toList = some (.address (.v6 v))) : ¬ PlainlyPrivate url := by
  rintro ⟨n, host, rest, hurl, ⟨address, hparse, -⟩, hrest⟩
  obtain ⟨left, before, after, hleft, hauthority, hcolon⟩ := UrlHost.bracketed_of_host h
  rw [hurl, List.replicate_succ, List.flatten_cons, List.append_assoc] at hleft
  cases n with
  | succ n =>
    -- after a repeated prefix the authority is `https:`
    have hvisible : ∀ c ∈ httpsPrefix, UrlHost.isC0OrSpace c = false :=
      Text.forall_false_of_all (by decide)
    have hname : httpsPrefix = "https:".toList ++ ['/', '/'] := by decide
    rw [List.replicate_succ, List.flatten_cons, List.append_assoc] at hleft
    cases (UrlHost.afterScheme_https hvisible _).symm.trans hleft
    rw [UrlHost.authority_slashes, hname, List.append_assoc,
      UrlHost.authority_append (by decide) (Text.forall_false_of_all (by decide))] at hauthority
    have hbracket : '[' ∈ before ++ '[' :: after := by simp
    rw [← hauthority] at hbracket
    simp [UrlHost.endsAuthority, UrlHost.isSlash] at hbracket
  | zero =>
    have hchars := fun c hc => UrlHost.of_isAddrChar (Ip.isAddrChar_of_parse? hparse c hc)
    have hbracket : '[' ∉ host := not_mem_of_isAddrChar hparse (by decide)
    rw [List.replicate_zero, List.flatten_nil, List.nil_append] at hleft
    cases (UrlHost.afterScheme_https (fun c hc => (hchars c hc).1) rest).symm.trans hleft
    rw [UrlHost.authority_slashes,
      UrlHost.authority_append (Ip.ne_nil_of_parse? hparse) fun c hc => (hchars c hc).2] at hauthority
    have hsep : UrlHost.isC0OrSpace ':' = false := by decide
    rcases hrest with ⟨-, hpath⟩ | ⟨port, path, rfl, hport, -, hpath⟩
    · -- the authority is the address
      rw [endsAuthority_of_atPath hpath, List.append_nil] at hauthority
      exact hbracket (hauthority ▸ by simp)
    · -- the last colon of the authority is the one after the address
      have htail : UrlHost.trimmed (':' :: (port ++ path)) = ':' :: UrlHost.trimmed (port ++ path) :=
        UrlHost.trimmed_append_cons hsep [] _
      rw [htail, List.takeWhile_cons_of_pos (by decide)] at hauthority
      exact hbracket (Text.mem_of_append_sep (by decide) (colon_notMem_authority hport hpath)
        hauthority hcolon)

/-- No address of an accepted URL is internal exactly if the request is refused for another reason,
or the URL spells a private address plainly, or its host is no internal address. In particular the
filter stops no IPv6 address: a URL with one is accepted like any other. -/
theorem accepted_jwks_url_external_iff (toAscii : List UInt8 → Option (List Char))
    (json : List String → String) (roles : K8sRoles) (name : String) (payload : K8sRoleRequest) :
    (((k8sCreateRole json roles name payload).result = .ok () →
        ∀ role, (k8sCreateRole json roles name payload).state.find? name = some role →
          ¬ ContactsInternal toAscii role.jwksUrl) ↔
      payload.tokenTtl < 0 ∨ ¬ httpsPrefix <+: payload.jwksUrl.toList ∨
        PlainlyPrivate payload.jwksUrl ∨ ¬ ContactsInternal toAscii payload.jwksUrl) ∧
    ∀ v, UrlHost.host toAscii payload.jwksUrl.toList = some (.address (.v6 v)) →
      ((k8sCreateRole json roles name payload).result = .ok () ↔
        httpsPrefix <+: payload.jwksUrl.toList ∧ 0 ≤ payload.tokenTtl) := by
  have haccepted : (k8sCreateRole json roles name payload).result = .ok () ↔
      httpsPrefix <+: payload.jwksUrl.toList ∧ ¬ PlainlyPrivate payload.jwksUrl ∧
        0 ≤ payload.tokenTtl := by
    rw [k8sCreateRole_ok_iff]
    refine and_congr_right fun hhttps => and_congr_left fun _ => ?_
    rw [← pointsToPrivateIp_iff hhttps, Bool.not_eq_true]
  refine ⟨⟨fun hsafe => ?_, fun hcond hok role hrole => ?_⟩, fun v hv => ?_⟩
  · by_contra hcond
    simp only [not_or, not_not] at hcond
    obtain ⟨httl, hhttps, hspelling, hcontacts⟩ := hcond
    have hok := haccepted.mpr ⟨hhttps, hspelling, Int.not_lt.mp httl⟩
    have hurl := jwksUrl_of_k8sCreateRole hok
    obtain ⟨role, hrole, hjwks⟩ := Option.map_eq_some_iff.mp hurl
    exact hsafe hok role hrole (hjwks ▸ hcontacts)
  · have hurl := jwksUrl_of_k8sCreateRole hok
    rw [hrole, Option.map_some, Option.some_inj] at hurl
    rw [hurl]
    obtain ⟨hhttps, hspelling, httl⟩ := haccepted.mp hok
    rcases hcond with hnegative | hplain | hplainly | hexternal
    · exact absurd hnegative (Int.not_lt.mpr httl)
    · exact absurd hhttps hplain
    · exact absurd hplainly hspelling
    · exact hexternal
  · rw [haccepted]
    exact ⟨fun h => ⟨h.1, h.2.2⟩, fun h => ⟨h.1, not_plainlyPrivate_of_v6 hv, h.2⟩⟩

end
end Kubernetes

namespace Transparent
open Kubernetes

def asciiDomain (bytes : List UInt8) : Option (List Char) :=
  if bytes.all (fun b => b < 0x80) then
    some (bytes.map fun b => (Char.ofNat b.toNat).toLower)
  else none

/-- Internal hosts that are not spelled as the standard library reads them. -/
def disguisedUrls : List String :=
  ["https://[::1]/", "https://[fe80::1]/jwks", "https://[::ffff:10.0.0.1]:6443/",
    "https://keys@127.0.0.1/", "https://127.0.0.1?", "https://127.0.0.1\\jwks",
    "https:///127.0.0.1/", "https://0x7f.1/", "https://2130706433/", "https://127.0.0.1./",
    "https://%31%30.0.0.1/"]

/-- Every way around the plain spelling is let through. -/
theorem internal_jwks_urls_accepted :
    disguisedUrls.Forall fun url =>
      (k8sCreateRole (fun _ => "[]") Table.empty "ci" { jwksUrl := url, tokenTtl := 60 }).result =
          .ok () ∧ ContactsInternal asciiDomain url := by
  decide

end Transparent
end AuthVerifier
