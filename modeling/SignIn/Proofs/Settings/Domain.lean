import Mathlib.Data.List.TakeWhile
import SignIn.Endpoints
import SignIn.Proofs.LoginFlow

/-!
# What a configured domain can say

A domain is read as what stands behind `https://`. A text with one of the signs `/ ? #` is refused,
but these are not the only signs that part a URL: what stands before an `@` is a user name and a
password, and what stands behind a backslash is a path. So the origin of a domain is a host with an
optional port exactly if nothing is said before an `@` and the path comes to nothing.
-/

namespace SignIn

open Text Url

/-! ## Characters of a domain -/

/-- The characters of a domain that count: without blanks at its ends, controls and spaces behind
it, tabs and line breaks anywhere, and slashes in front, of which only backslashes can be there. -/
def domainChars (domain : String) : List Char :=
  (((trim domain).toList.reverse.dropWhile fun c => c.toNat ≤ 32).reverse.filter
    fun c => c != '\t' && c != '\n' && c != '\r').dropWhile anySlash

/-- What stands before the last `@` of a domain, up to the first backslash. -/
def domainInfo (domain : String) : List Char :=
  (splitUserinfo ((domainChars domain).takeWhile (!anySlash ·))).1.getD []

def domainSegments (domain : String) : List (List Char) :=
  splitWhere anySlash (((domainChars domain).dropWhile (!anySlash ·)).drop 1)

/-- The number of segments of a path after one more: dots lead up again. -/
def Url.level (n : Nat) (seg : List Char) : Nat :=
  if isDoubleDot seg then n - 1 else if isSingleDot seg then n else n + 1

/-- Whether a path comes to one empty segment, behind a number of other segments. -/
def Url.comesToNothing : Nat → List (List Char) → Bool
  | n, [] => n == 0
  | n, [seg] => if isDoubleDot seg then n ≤ 1 else n == 0 && (isSingleDot seg || seg.isEmpty)
  | n, seg :: seg' :: segs => comesToNothing (level n seg) (seg' :: segs)

/-- A domain says nothing but a host and a port: no user name and no password stand before an `@`,
and the segments behind a backslash come to nothing. -/
structure SaysOnlyHost (domain : String) : Prop where
  info : domainInfo domain = [] ∨ domainInfo domain = [':']
  path : comesToNothing 0 (domainSegments domain)

instance (domain : String) : Decidable (SaysOnlyHost domain) :=
  decidable_of_iff ((domainInfo domain = [] ∨ domainInfo domain = [':']) ∧
      comesToNothing 0 (domainSegments domain))
    ⟨fun h => ⟨h.1, h.2⟩, fun h => ⟨h.info, h.path⟩⟩

/-- The URL of segments at a host and a port, and of nothing else. -/
def Url.ofHost (host : Host) (port : Option UInt16) (parts : List String) : Url :=
  ⟨"https", some ⟨"", none, some host, port⟩, .segments parts, none, none⟩

def hostAndPort (host : Host) (port : Option UInt16) : String :=
  host.text ++ (port.map fun p => ":" ++ toString p.toNat).getD ""

structure Endpoints.Below (e : Endpoints) (site : String) : Prop where
  authorization : e.authorization.text = site ++ "/oauth/authorize"
  issuer : e.issuer = e.authorization.text
  token : e.token.text = site ++ "/oauth/token"

namespace Url

/-! ## Paths that come to nothing -/

section Paths

variable {style : Style} (hfile : style.file = false) {parts : List String} {seg : List Char}
include hfile

theorem exists_pushSegments_cons (seg' : List Char) (segs : List (List Char)) :
    ∃ parts', parts'.length = level parts.length seg ∧
      pushSegments style parts (seg :: seg' :: segs) =
        pushSegments style parts' (seg' :: segs) := by
  rw [pushSegments]
  refine ⟨_, ?_, rfl⟩
  unfold level dropLastSegment
  simp only [hfile, Bool.false_and, List.isEmpty_cons, Bool.false_eq_true, if_false]
  split_ifs <;> simp

theorem pushSegments_singleton_eq_iff :
    pushSegments style parts [seg] = [""] ↔ comesToNothing parts.length [seg] := by
  have hlast : ∀ before : List String, before ++ [""] = [""] ↔ before = [] := by
    intro before
    rw [List.append_eq_singleton_iff]
    simp
  have hencoded : String.ofList (percentEncode pathSet seg) = "" ↔ seg = [] := by
    constructor
    · intro h
      by_contra hne
      exact percentEncode_ne_nil hne (by simpa using congrArg String.toList h)
    · rintro rfl
      rfl
  have hdrop : parts.dropLast = [] ↔ parts.length ≤ 1 := by
    rw [← List.length_eq_zero_iff, List.length_dropLast]
    omega
  simp only [pushSegments, comesToNothing, dropLastSegment, hfile, List.isEmpty_nil, if_true,
    Bool.false_and, Bool.false_eq_true, if_false]
  split_ifs with hdouble hsingle
  · rw [hlast, hdrop, decide_eq_true_iff]
  · rw [hlast, hsingle]
    simp
  · rw [List.append_eq_singleton_iff]
    simp [hencoded, hsingle]

theorem pushSegments_eq_iff {segs : List (List Char)} (hne : segs ≠ []) :
    pushSegments style parts segs = [""] ↔ comesToNothing parts.length segs := by
  induction segs generalizing parts with
  | nil => exact absurd rfl hne
  | cons seg segs ih =>
    cases segs with
    | nil => exact pushSegments_singleton_eq_iff hfile
    | cons seg' segs =>
      obtain ⟨parts', hlength, hpush⟩ := exists_pushSegments_cons hfile seg' segs
      rw [hpush, ih (by simp), hlength]
      rfl

end Paths

/-! ## User names and passwords -/

theorem readUserinfo_eq_iff {cs : List Char} :
    readUserinfo cs = ("", none) ↔ cs = [] ∨ cs = [':'] := by
  constructor
  · intro h
    cases cs with
    | nil => exact .inl rfl
    | cons c cs =>
      by_cases hc : c = ':'
      · subst hc
        right
        simpa [readUserinfo, cutAt, percentEncode] using h
      · have hcut : cutAt (· == ':') (c :: cs) =
            (c :: (cutAt (· == ':') cs).1, (cutAt (· == ':') cs).2) := by
          simp [cutAt, hc]
        rw [readUserinfo, hcut] at h
        obtain ⟨husername, -⟩ := Prod.mk.inj h
        have hne : percentEncode userinfoSet (c :: (cutAt (· == ':') cs).1) ≠ [] :=
          percentEncode_ne_nil (List.cons_ne_nil c _)
        exact absurd (by simpa using congrArg String.toList husername) hne
  · rintro (rfl | rfl) <;> rfl

end Url

/-! ## What is read of a domain -/

theorem mem_of_mem_domainChars {domain : String} {c : Char} (h : c ∈ domainChars domain) :
    c ∈ (trim domain).toList := by
  have hfilter := List.mem_of_mem_filter ((List.dropWhile_sublist _).mem h)
  simpa using (List.dropWhile_sublist _).mem (List.mem_reverse.mp hfilter)

theorem signs_of_domainOrigin {domain : String} {origin : Url}
    (h : domainOrigin domain = .ok origin) :
    ∀ c ∈ (trim domain).toList, c ≠ '/' ∧ endsPath c = false := by
  unfold domainOrigin at h
  dsimp only at h
  split_ifs at h with _ hbare
  intro c hc
  have hnone : ∀ c ∈ (trim domain).toList, (c == '/' || c == '?' || c == '#') = false := by
    simpa using hbare
  simpa [endsPath, and_assoc] using hnone c hc

theorem readAfterSlashes_of_domainOrigin {domain : String} {origin : Url}
    (h : domainOrigin domain = .ok origin) :
    readAfterSlashes "https" (domainChars domain) = .ok origin := by
  unfold domainOrigin at h
  dsimp only at h
  split_ifs at h
  rw [parse_secure] at h
  split at h
  · cases h
  · next url hread =>
    split_ifs at h
    cases h
    exact hread

/-- The origin of a domain in its parts: its host and its port can be read, and all else follows
from its characters. -/
theorem exists_site_of_domainOrigin {domain : String} {origin : Url}
    (h : domainOrigin domain = .ok origin) :
    ∃ site, readSite (siteOf (domainChars domain)) = .ok site ∧
      origin = ofParts (domainChars domain) site := by
  have hsigns : ∀ c ∈ domainChars domain, endsPath c = false :=
    fun c hc => (signs_of_domainOrigin h c (mem_of_mem_domainChars hc)).2
  have hread := readAfterSlashes_of_domainOrigin h
  rw [readAfterSlashes_secure hsigns] at hread
  cases hsite : readSite (siteOf (domainChars domain)) with
  | error fault =>
    rw [hsite] at hread
    cases hread
  | ok site =>
    rw [hsite] at hread
    cases hread
    exact ⟨site, rfl, rfl⟩

theorem exists_of_domainOrigin {domain : String} {origin : Url}
    (h : domainOrigin domain = .ok origin) :
    ∃ host port, origin = ⟨"https",
      some ⟨(readUserinfo (domainInfo domain)).1, (readUserinfo (domainInfo domain)).2, some host,
        port⟩,
      .segments (pushSegments (Style.of "https") [] (domainSegments domain)), none, none⟩ := by
  obtain ⟨site, -, rfl⟩ := exists_site_of_domainOrigin h
  exact ⟨site.1, site.2, rfl⟩

/-! ## Endpoints of a host -/

theorem Url.text_ofHost (host : Host) (port : Option UInt16) (parts : List String) :
    (ofHost host port parts).text =
      "https://" ++ hostAndPort host port ++ (UrlPath.segments parts).text := by
  rw [show "https://" = "https:" ++ "//" from rfl]
  simp only [ofHost, text, Authority.text, Authority.userinfo, Authority.hostText, hostAndPort,
    after, String.append_assoc, Option.map_some, Option.map_none, Option.getD_some,
    Option.getD_none, String.append_empty, String.empty_append, if_true]
  rfl

theorem Endpoints.exists_of_ofHost (host : Host) (port : Option UInt16) (clientId : String) :
    ∃ e, ofOrigin (.ofHost host port [""]) clientId = .ok e ∧
      e.serverOrigin = .ofHost host port [""] ∧ e.Below ("https://" ++ hostAndPort host port) := by
  have hauthorize : (Url.ofHost host port [""]).join "oauth/authorize" =
      .ok (.ofHost host port ["oauth", "authorize"]) := by rfl
  have htoken : (Url.ofHost host port [""]).join "oauth/token" =
      .ok (.ofHost host port ["oauth", "token"]) := by rfl
  unfold ofOrigin
  rw [hauthorize, htoken]
  exact ⟨_, rfl, rfl, Url.text_ofHost .., rfl, Url.text_ofHost ..⟩

theorem Endpoints.ofSettings_of_origins {settings : Settings} {origin app : Url}
    (horigin : settings.serverOrigin = .ok origin) (happ : settings.appOrigin = .ok app)
    {e : Endpoints}
    (he : ofOrigin origin (ClientMetadata.forDomain settings.appDomain).clientId = .ok e) :
    ofSettings settings = .ok e := by
  have hvalid : settings.validate = .ok () := by
    unfold Settings.validate
    rw [horigin, happ]
    rfl
  unfold ofSettings
  rw [hvalid, horigin]
  dsimp only
  rw [he]
  rfl

/-! ## Domains that are a host -/

theorem SaysOnlyHost.of_forall_ne {domain : String} {origin : Url}
    (h : domainOrigin domain = .ok origin) (hsigns : ∀ c ∈ domain.toList, c ≠ '@' ∧ c ≠ '\\') :
    SaysOnlyHost domain := by
  have hplain : ∀ c ∈ domainChars domain, c ≠ '@' ∧ anySlash c = false := by
    intro c hc
    have htrim : c ∈ domain.toList := by
      have hmem := mem_of_mem_domainChars hc
      rw [trim, String.toList_ofList] at hmem
      exact (stripEnds_sublist _ _).mem hmem
    obtain ⟨hat, hback⟩ := hsigns c htrim
    have hslash := (signs_of_domainOrigin h c (mem_of_mem_domainChars hc)).1
    exact ⟨hat, by simp [anySlash, hslash, hback]⟩
  constructor
  · left
    have hnone : ∀ c ∈ ((domainChars domain).takeWhile (!anySlash ·)).reverse,
        (c == '@') = false := by
      intro c hc
      have hmem := (List.takeWhile_sublist _).mem (List.mem_reverse.mp hc)
      simpa using (hplain c hmem).1
    rw [domainInfo, splitUserinfo, cutAt_of_forall hnone]
    rfl
  · have hempty : (domainChars domain).dropWhile (!anySlash ·) = [] := by
      rw [List.dropWhile_eq_nil_iff]
      intro c hc
      simp [(hplain c hc).2]
    rw [domainSegments, hempty]
    rfl

theorem exists_ofHost_iff {domain : String} {origin : Url} (h : domainOrigin domain = .ok origin) :
    (∃ host port, origin = .ofHost host port [""]) ↔ SaysOnlyHost domain := by
  obtain ⟨host, port, hparts⟩ := exists_of_domainOrigin h
  have hpath : pushSegments (Style.of "https") [] (domainSegments domain) = [""] ↔
      comesToNothing 0 (domainSegments domain) :=
    pushSegments_eq_iff rfl (splitWhere_ne_nil anySlash _)
  constructor
  · rintro ⟨host', port', hbare⟩
    obtain ⟨-, hauthority, hsegments, -⟩ := Url.mk.inj (hparts.symm.trans hbare)
    obtain ⟨husername, hpassword, -⟩ := Authority.mk.inj (Option.some.inj hauthority)
    constructor
    · exact readUserinfo_eq_iff.mp (Prod.ext husername hpassword)
    · exact hpath.mp (UrlPath.segments.inj hsegments)
  · intro hsays
    rw [readUserinfo_eq_iff.mpr hsays.info, hpath.mpr hsays.path] at hparts
    exact ⟨host, port, hparts⟩

/-- A domain that is accepted has an origin under `https` with a host, without query and fragment.
The origin is the host with its port and nothing else, and so are the endpoints of settings with
that domain, exactly if the domain says nothing else; so always if neither `@` nor a backslash is
in it. -/
theorem origin_is_bare_iff {domain : String} {origin : Url}
    (h : domainOrigin domain = .ok origin) :
    (origin.scheme = "https" ∧ origin.host?.isSome ∧ origin.query = none ∧
      origin.fragment = none) ∧
    ((∃ host port, origin = .ofHost host port [""] ∧
        origin.text = "https://" ++ hostAndPort host port ++ "/" ∧
        ∀ settings : Settings, settings.serverDomain = domain →
          (∃ app, settings.appOrigin = .ok app) → ∃ e, Endpoints.ofSettings settings = .ok e ∧
            e.serverOrigin = origin ∧ e.Below ("https://" ++ hostAndPort host port)) ↔
      SaysOnlyHost domain) ∧
    ((∀ c ∈ domain.toList, c ≠ '@' ∧ c ≠ '\\') → SaysOnlyHost domain) := by
  have hendpoints : ∀ {host port}, origin = .ofHost host port [""] →
      ∀ settings : Settings, settings.serverDomain = domain →
        (∃ app, settings.appOrigin = .ok app) → ∃ e, Endpoints.ofSettings settings = .ok e ∧
          e.serverOrigin = origin ∧ e.Below ("https://" ++ hostAndPort host port) := by
    rintro host port rfl settings rfl ⟨app, happ⟩
    obtain ⟨e, he, horigin, hbelow⟩ := Endpoints.exists_of_ofHost host port
      (ClientMetadata.forDomain settings.appDomain).clientId
    exact ⟨e, Endpoints.ofSettings_of_origins h happ he, horigin, hbelow⟩
  refine ⟨?_, ?_, SaysOnlyHost.of_forall_ne h⟩
  · obtain ⟨host, port, rfl⟩ := exists_of_domainOrigin h
    exact ⟨rfl, rfl, rfl, rfl⟩
  · rw [← exists_ofHost_iff h]
    constructor
    · rintro ⟨host, port, hbare, -⟩
      exact ⟨host, port, hbare⟩
    · rintro ⟨host, port, hbare⟩
      have htext : origin.text = "https://" ++ hostAndPort host port ++ "/" := by
        rw [hbare]
        exact Url.text_ofHost host port [""]
      exact ⟨host, port, hbare, htext, hendpoints hbare⟩

-- either sign can be there for nothing
example : SaysOnlyHost ":@node.example\\a\\.." := by decide +kernel

set_option maxRecDepth 10000 in
/-- A host with a port, and a blank and a tab that do not count. -/
theorem origin_is_bare_with_port :
    let settings : Settings := { serverDomain := " node.exa\tmple:8443" }
    ∃ origin e, settings.serverOrigin = .ok origin ∧ origin.text = "https://node.example:8443/" ∧
      Endpoints.ofSettings settings = .ok e ∧
      e.authorization.text = "https://node.example:8443/oauth/authorize" ∧
      e.token.text = "https://node.example:8443/oauth/token" := by
  intro settings
  have horigin : settings.serverOrigin = .ok (.ofHost (.name "node.example") (some 8443) [""]) := by
    decide +kernel
  have happ : settings.appOrigin = .ok (.ofHost (.name "localhost") (some 5173) [""]) := by
    decide +kernel
  obtain ⟨-, hbare, hplain⟩ := origin_is_bare_iff horigin
  obtain ⟨host, port, hhost, htext, hendpoints⟩ :=
    hbare.mpr (hplain (forall_of_all (by decide +kernel)))
  obtain ⟨e, he, -, hbelow⟩ := hendpoints settings rfl ⟨_, happ⟩
  obtain ⟨-, hauthority, -⟩ := Url.mk.inj hhost
  obtain ⟨-, -, hname, hport⟩ := Authority.mk.inj (Option.some.inj hauthority)
  obtain rfl := Option.some.inj hname
  subst hport
  exact ⟨_, e, horigin, htext, he, hbelow.authorization, hbelow.token⟩

set_option maxRecDepth 10000 in
/-- A domain with a user name and one with a path are accepted, and neither is a host only. The
issuer has the user name, too. -/
theorem not_origin_is_bare_of_user :
    ∃ user path, domainOrigin "user@node.example" = .ok user ∧
      user.text = "https://user@node.example/" ∧
      (Endpoints.forDomains "user@node.example" "app.example").map Endpoints.issuer =
        .ok "https://user@node.example/oauth/authorize" ∧
      domainOrigin "node.example\\path" = .ok path ∧ path.text = "https://node.example/path" ∧
      ∀ host port, user ≠ .ofHost host port [""] ∧ path ≠ .ofHost host port [""] := by
  have huser : domainOrigin "user@node.example" =
      .ok ⟨"https", some ⟨"user", none, some (.name "node.example"), none⟩, .segments [""], none,
        none⟩ := by decide +kernel
  have hpath : domainOrigin "node.example\\path" =
      .ok (.ofHost (.name "node.example") none ["path"]) := by decide +kernel
  have hissuer : (Endpoints.forDomains "user@node.example" "app.example").map Endpoints.issuer =
      .ok "https://user@node.example/oauth/authorize" := by decide +kernel
  refine ⟨_, _, huser, by decide, hissuer, hpath, by decide, fun host port => ⟨?_, ?_⟩⟩
  · intro h
    obtain ⟨-, hauthority, -⟩ := Url.mk.inj h
    obtain ⟨hname, -⟩ := Authority.mk.inj (Option.some.inj hauthority)
    exact absurd hname (by decide)
  · intro h
    obtain ⟨-, -, hsegments, -⟩ := Url.mk.inj h
    exact absurd (UrlPath.segments.inj hsegments) (by decide)

end SignIn
