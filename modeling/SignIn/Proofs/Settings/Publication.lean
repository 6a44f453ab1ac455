import SignIn.CommandLine.Commands
import SignIn.Proofs.Parameters
import SignIn.Proofs.Settings.Domain
import SignIn.Proofs.Url.Blanks

/-!
# What a client publishes under its domain

A domain is checked without the blanks at its ends, but the addresses that a client publishes hold
it as it was configured. A host has no blanks at its ends, so the two readings of an accepted domain
agree only where the blanks come to nothing: the published addresses are below the client's origin
exactly if both readings find the same host and port and the domain adds nothing to the path.
-/

namespace SignIn

open Text Domain Url CommandLine

/-- The characters of a domain that count where it is published: those that stand behind
`https://`, blanks at its ends with them. -/
def publicChars (domain : String) : List Char :=
  (domain.toList.filter counts).dropWhile anySlash

/-- The segments that are published before the name of a page. -/
def publicSegments (domain : String) : List (List Char) :=
  match (publicChars domain).dropWhile (!anySlash ·) with
  | [] => []
  | _ :: rest => splitWhere anySlash rest

/-- A domain is published as it is read: with the same host and port, and with segments that lead
nowhere. -/
structure PublishedAsRead (domain : String) : Prop where
  site : siteOf (publicChars domain) = siteOf (domainChars domain)
  path : (publicSegments domain).foldl level 0 = 0

instance (domain : String) : Decidable (PublishedAsRead domain) :=
  decidable_of_iff (siteOf (publicChars domain) = siteOf (domainChars domain) ∧
      (publicSegments domain).foldl level 0 = 0)
    ⟨fun h => ⟨h.1, h.2⟩, fun h => ⟨h.site, h.path⟩⟩

/-- A URL is a page of a site: it has the origin of the site, the path of the page, and nothing
behind the path. -/
structure Url.IsPage (u site : Url) (path : String) : Prop where
  origin : u.origin.same site.origin
  path : u.path.text = path
  query : u.query = none
  fragment : u.fragment = none

/-- Settings publish pages of an origin: the document of the client, and the redirect URI to which
every login leads that names none. -/
structure Settings.Publishes (s : Settings) (origin : Url) : Prop where
  document : ∃ u, Url.parse (ClientMetadata.forDomain s.appDomain).clientId = .ok u ∧
    u.IsPage origin "/client-metadata.json"
  redirect : ∃ text u, (ClientMetadata.forDomain s.appDomain).redirectUri? = some text ∧
    Url.parse text = .ok u ∧ u.IsPage origin "/oauth-login" ∧
    ∀ {σ : Type} {m : Type → Type} [Monad m] (w : CommandContext σ m), w.settings = s →
      redirectOf w none = pure u

namespace Url

/-! ## Hosts and ports between other characters -/

theorem siteOf_eq (cs : List Char) :
    siteOf cs =
      ((cs.takeWhile (!anySlash ·)).reverse.takeWhile fun c => !(c == '@')).reverse := by
  simp [siteOf, splitUserinfo, fst_cutAt]

/-- Characters that are neither slashes nor the sign of a user name. -/
def Inert (cs : List Char) : Prop := ∀ c ∈ cs, anySlash c = false ∧ c ≠ '@'

theorem Inert.takeWhile {cs : List Char} (h : Inert cs) : cs.takeWhile (!anySlash ·) = cs :=
  List.takeWhile_eq_self_iff.mpr fun c hc => by simp [(h c hc).1]

theorem Inert.takeWhile_reverse {cs : List Char} (h : Inert cs) :
    cs.reverse.takeWhile (fun c => !(c == '@')) = cs.reverse :=
  List.takeWhile_eq_self_iff.mpr fun c hc => by simp [(h c (List.mem_reverse.mp hc)).2]

variable {front back : List Char}

theorem siteOf_append_inert (cs : List Char) (h : Inert back) :
    siteOf (cs ++ back) = siteOf cs ∨ siteOf (cs ++ back) = siteOf cs ++ back := by
  by_cases hslash : ∃ c ∈ cs, (!anySlash c) = false
  · left
    rw [siteOf_eq, siteOf_eq, takeWhile_append_of_exists hslash]
  · right
    have hnone : ∀ c ∈ cs, (!anySlash c) = true := by simpa using hslash
    rw [siteOf_eq, siteOf_eq, List.takeWhile_append_of_pos hnone, h.takeWhile, List.reverse_append,
      List.takeWhile_append_of_pos (by simpa using fun c hc => (h c hc).2),
      List.takeWhile_eq_self_iff.mpr hnone, List.reverse_append, List.reverse_reverse]

theorem siteOf_inert_append (h : Inert front) (cs : List Char) :
    siteOf (front ++ cs) = siteOf cs ∧ '@' ∈ cs.takeWhile (!anySlash ·) ∨
      siteOf (front ++ cs) = front ++ siteOf cs := by
  have hwhole : (front ++ cs).takeWhile (!anySlash ·) = front ++ cs.takeWhile (!anySlash ·) :=
    List.takeWhile_append_of_pos fun c hc => by simp [(h c hc).1]
  rw [siteOf_eq, siteOf_eq, hwhole, List.reverse_append]
  by_cases hat : '@' ∈ cs.takeWhile (!anySlash ·)
  · left
    rw [takeWhile_append_of_exists ⟨'@', List.mem_reverse.mpr hat, by decide⟩]
    exact ⟨rfl, hat⟩
  · right
    have hnone : ∀ c ∈ (cs.takeWhile (!anySlash ·)).reverse, (!(c == '@')) = true := by
      intro c hc
      have hne : c ≠ '@' := by
        rintro rfl
        exact hat (List.mem_reverse.mp hc)
      simpa using hne
    rw [List.takeWhile_append_of_pos hnone, h.takeWhile_reverse,
      List.takeWhile_eq_self_iff.mpr hnone]
    simp

/-! ## Pages below a domain -/

/-- A name that stands in a path as one segment and as itself. -/
structure NamesPage (name : String) : Prop where
  plain : ∀ c ∈ name.toList, 32 < c.toNat ∧ anySlash c = false ∧ endsPath c = false
  segment : ∀ parts, pushSegments (Style.of "https") parts [name.toList] = parts ++ [name]

theorem exists_pushSegments_concat {style : Style} (hfile : style.file = false)
    (segs : List (List Char)) (last : List Char) (parts : List String) :
    ∃ parts', parts'.length = segs.foldl level parts.length ∧
      pushSegments style parts (segs ++ [last]) = pushSegments style parts' [last] := by
  induction segs generalizing parts with
  | nil => exact ⟨parts, rfl, rfl⟩
  | cons seg segs ih =>
    obtain ⟨next, rest, hnext⟩ := List.exists_cons_of_ne_nil
      (List.append_ne_nil_of_right_ne_nil segs (List.cons_ne_nil last []))
    have hfirst : ∃ parts' : List String, parts'.length = level parts.length seg ∧
        pushSegments style parts (seg :: next :: rest) =
          pushSegments style parts' (next :: rest) := exists_pushSegments_cons hfile next rest
    obtain ⟨parts', hlength, hpush⟩ := hfirst
    obtain ⟨parts'', hlength', hpush'⟩ := ih parts'
    refine ⟨parts'', ?_, ?_⟩
    · rw [hlength', hlength, List.foldl_cons]
    · rw [List.cons_append, hnext, hpush, ← hnext, hpush']

theorem text_concat (parts : List String) (name : String) :
    (UrlPath.segments (parts ++ [name])).text = (UrlPath.segments parts).text ++ ("/" ++ name) := by
  simp [UrlPath.text, String.join]

theorem text_concat_eq_iff (parts : List String) (name : String) :
    (UrlPath.segments (parts ++ [name])).text = "/" ++ name ↔ parts = [] := by
  constructor
  · intro h
    rcases List.eq_nil_or_concat parts with rfl | ⟨before, last, rfl⟩
    · rfl
    · rw [List.concat_eq_append, text_concat, text_concat] at h
      have hlength := congrArg String.length h
      simp only [String.length_append, show "/".length = 1 from rfl] at hlength
      omega
  · rintro rfl
    rw [text_concat]
    simp [UrlPath.text, String.join]

theorem counts_of_lt {c : Char} (h : 32 < c.toNat) : counts c := by
  have hne : ∀ d : Char, d.toNat ≤ 32 → c ≠ d := by
    rintro d hd rfl
    omega
  simp [counts, hne '\t' (by decide), hne '\n' (by decide), hne '\r' (by decide)]

section Pages

variable {domain name : String}

theorem secureChars_page (hname : NamesPage name) (hne : publicChars domain ≠ []) :
    secureChars (domain ++ ("/" ++ name)) = publicChars domain ++ '/' :: name.toList := by
  have hpage : ("/" ++ name).toList = '/' :: name.toList := by simp
  have hkeep : ∀ c ∈ '/' :: name.toList, 32 < c.toNat := by
    intro c hc
    rcases List.mem_cons.mp hc with rfl | hc
    · decide
    · exact (hname.plain c hc).1
  have hfilter : ('/' :: name.toList).filter counts = '/' :: name.toList := by
    rw [List.filter_eq_self]
    exact fun c hc => counts_of_lt (hkeep c hc)
  have hdrop : ((domain ++ ("/" ++ name)).toList.reverse.dropWhile fun c => c.toNat ≤ 32) =
      (domain ++ ("/" ++ name)).toList.reverse := by
    apply dropWhile_of_head
    intro c hc
    rw [List.head?_reverse, String.toList_append, hpage,
      List.getLast?_append_of_ne_nil _ (List.cons_ne_nil _ _)] at hc
    have hlt := hkeep c (List.mem_of_getLast? hc)
    simpa using hlt
  unfold secureChars
  rw [hdrop, List.reverse_reverse, String.toList_append, List.filter_append, hpage, hfilter,
    List.dropWhile_append]
  exact if_neg (by simpa [publicChars] using hne)

theorem parse_page (hname : NamesPage name) (hne : publicChars domain ≠ [])
    (hends : ∀ c ∈ publicChars domain, endsPath c = false) :
    Url.parse ("https://" ++ domain ++ ("/" ++ name)) =
      (readSite (siteOf (publicChars domain))).map
        (ofParts (publicChars domain ++ '/' :: name.toList)) := by
  have hsite : siteOf (publicChars domain ++ '/' :: name.toList) = siteOf (publicChars domain) := by
    rw [siteOf_eq, siteOf_eq, takeWhile_append_cons (by decide)]
  rw [String.append_assoc, parse_secure, secureChars_page hname hne, readAfterSlashes_secure, hsite]
  intro c hc
  rcases List.mem_append.mp hc with hc | hc
  · exact hends c hc
  · rcases List.mem_cons.mp hc with rfl | hc
    · decide
    · exact (hname.plain c hc).2.2

theorem path_page (hname : NamesPage name) (site : Host × Option UInt16) :
    (ofParts (publicChars domain ++ '/' :: name.toList) site).path.text = "/" ++ name ↔
      (publicSegments domain).foldl level 0 = 0 := by
  have hsegments : segmentsBehind (publicChars domain ++ '/' :: name.toList) =
      publicSegments domain ++ [name.toList] := by
    have hplain : splitWhere anySlash name.toList = [name.toList] :=
      splitWhere_of_forall fun c hc => (hname.plain c hc).2.1
    unfold segmentsBehind publicSegments
    rw [List.dropWhile_append]
    cases hrest : (publicChars domain).dropWhile (!anySlash ·) with
    | nil => simpa [anySlash] using hplain
    | cons c rest => simp [splitWhere_append_cons, hplain, anySlash]
  have hfile : (Style.of "https").file = false := rfl
  obtain ⟨parts, hlength, hpush⟩ :=
    exists_pushSegments_concat hfile (publicSegments domain) name.toList []
  unfold ofParts
  dsimp only
  rw [hsegments, hpush, hname.segment, text_concat_eq_iff, ← List.length_eq_zero_iff, hlength]
  rfl

theorem origin_same_ofParts (cs cs' : List Char) (site : Host × Option UInt16) :
    (ofParts cs site).origin.same (ofParts cs' site).origin := by
  have hlands : (ofParts cs site).LandsOn (ofParts cs' site) :=
    ⟨ofParts cs site, .self _, rfl, ⟨site.1, rfl, rfl⟩, rfl⟩
  exact (origin_same_iff (.inr rfl)).mpr hlands

end Pages

end Url

/-! ## The two readings of a domain -/

theorem Url.Inert.of_isStray {cs : List Char} (h : ∀ c ∈ cs, isStray c) : Inert cs := by
  intro c hc
  have hslash : c ≠ '/' := ne_of_isStray (h c hc) (by decide)
  have hback : c ≠ '\\' := ne_of_isStray (h c hc) (by decide)
  exact ⟨by simp [anySlash, hslash, hback], ne_of_isStray (h c hc) (by decide)⟩

theorem siteOf_append_stray (cs : List Char) {back : List Char} (h : ∀ c ∈ back, isStray c) :
    siteOf (cs ++ back) = siteOf cs ∨
      ∃ c, isStray c ∧ (siteOf (cs ++ back)).getLast? = some c := by
  rcases siteOf_append_inert cs (.of_isStray h) with hsite | hsite
  · exact .inl hsite
  · rw [hsite]
    rcases List.eq_nil_or_concat back with rfl | ⟨before, c, rfl⟩
    · exact .inl (List.append_nil _)
    · exact .inr ⟨c, h c (by simp), by simp⟩

theorem exists_domainChars (domain : String) :
    ∃ front chars back, domain.toList.filter counts = front ++ (chars ++ back) ∧
      domainChars domain = chars.dropWhile anySlash ∧
      (∀ c ∈ front, isStray c) ∧ ∀ c ∈ back, isStray c := by
  obtain ⟨front, back, hdomain, hfront, hback, -⟩ := exists_stripEnds isBlank domain.toList
  obtain ⟨core, controls, hcore, hchars, hcontrols⟩ : ∃ core controls,
      stripEnds isBlank domain.toList = core ++ controls ∧
      domainChars domain = (core.filter counts).dropWhile anySlash ∧
      ∀ c ∈ controls, c.toNat ≤ 32 := by
    have htrim : (trim domain).toList = stripEnds isBlank domain.toList := String.toList_ofList
    refine ⟨_, ((trim domain).toList.reverse.takeWhile fun c => c.toNat ≤ 32).reverse, ?_, rfl, ?_⟩
    · rw [← List.reverse_append, List.takeWhile_append_dropWhile, List.reverse_reverse, htrim]
    · intro c hc
      simpa using List.mem_takeWhile_imp (List.mem_reverse.mp hc)
  refine ⟨front.filter counts, core.filter counts, (controls ++ back).filter counts, ?_, hchars, ?_,
    ?_⟩
  · rw [hdomain, hcore, List.append_assoc, List.append_assoc, List.filter_append,
      List.filter_append]
  · intro c hc
    simp [isStray, hfront c (List.mem_of_mem_filter hc)]
  · intro c hc
    rcases List.mem_append.mp (List.mem_of_mem_filter hc) with hc | hc
    · exact isStray_of_le (hcontrols c hc)
    · simp [isStray, hback c hc]

/-- A domain that is published has the same host and port as it is read, or it has a blank or a
control at one end of its host and port. -/
theorem siteOf_publicChars {domain : String} (hne : domainChars domain ≠ []) :
    siteOf (publicChars domain) = siteOf (domainChars domain) ∨
      ∃ c, isStray c ∧ ((siteOf (publicChars domain)).head? = some c ∨
        (siteOf (publicChars domain)).getLast? = some c) := by
  obtain ⟨front, chars, back, hfilter, hchars, hfront, hback⟩ := exists_domainChars domain
  have hbehind := siteOf_append_stray (domainChars domain) hback
  unfold publicChars
  rw [hfilter]
  cases front with
  | nil =>
    have hpublic : (chars ++ back).dropWhile anySlash = domainChars domain ++ back := by
      rw [List.dropWhile_append, ← hchars]
      exact if_neg (by simpa using hne)
    rw [List.nil_append, hpublic]
    rcases hbehind with hsite | ⟨c, hc, hlast⟩
    · exact .inl hsite
    · exact .inr ⟨c, hc, .inr hlast⟩
  | cons c front =>
    have hc := hfront c List.mem_cons_self
    have hpublic : (c :: front ++ (chars ++ back)).dropWhile anySlash =
        c :: front ++ (chars ++ back) := by
      apply dropWhile_of_head
      intro d hd
      cases hd
      exact (Inert.of_isStray hfront c List.mem_cons_self).1
    rw [hpublic]
    rcases siteOf_inert_append (.of_isStray hfront) (chars ++ back) with ⟨hsite, hat⟩ | hsite
    · -- a slash before the sign of a user name would end the host
      have hsame : chars = domainChars domain := by
        rw [hchars, dropWhile_of_head]
        intro d hd
        by_contra hslash
        rw [Bool.not_eq_false] at hslash
        obtain ⟨rest, rfl⟩ := List.head?_eq_some_iff.mp hd
        simp [hslash] at hat
      rw [hsite, hsame]
      rcases hbehind with hsite | ⟨c, hc, hlast⟩
      · exact .inl hsite
      · exact .inr ⟨c, hc, .inr hlast⟩
    · rw [hsite]
      exact .inr ⟨c, hc, .inl rfl⟩

/-! ## Pages of the client -/

theorem Url.namesPage_document : NamesPage "client-metadata.json" where
  plain := forall_of_all (by decide)
  segment _ := rfl

theorem Url.namesPage_redirect : NamesPage "oauth-login" where
  plain := forall_of_all (by decide)
  segment _ := rfl

section

variable {domain : String} {origin : Url}

theorem endsPath_of_mem_publicChars (h : domainOrigin domain = .ok origin) :
    ∀ c ∈ publicChars domain, endsPath c = false := by
  intro c hc
  have hin : c ∈ domain.toList := List.mem_of_mem_filter ((List.dropWhile_sublist _).mem hc)
  have hblank : isBlank c → endsPath c = false := by
    intro hblank
    have hfails : isStray c := by simp [isStray, hblank]
    have hask : c ≠ '?' := ne_of_isStray hfails (by decide)
    have hhash : c ≠ '#' := ne_of_isStray hfails (by decide)
    simp [endsPath, hask, hhash]
  obtain ⟨front, back, hdomain, hfront, hback, -⟩ := exists_stripEnds isBlank domain.toList
  rw [hdomain, List.mem_append, List.mem_append] at hin
  rcases hin with (hin | hin) | hin
  · exact hblank (hfront c hin)
  · apply (signs_of_domainOrigin h c _).2
    rwa [trim, String.toList_ofList]
  · exact hblank (hback c hin)

/-- A page that is published for an accepted domain is a page of its origin exactly if the domain is
published as it is read. -/
theorem isPage_iff (h : domainOrigin domain = .ok origin) {name : String} (hname : NamesPage name) :
    (∃ u, Url.parse ("https://" ++ domain ++ ("/" ++ name)) = .ok u ∧
      u.IsPage origin ("/" ++ name)) ↔ PublishedAsRead domain := by
  obtain ⟨site, hsite, rfl⟩ := exists_site_of_domainOrigin h
  have hne : domainChars domain ≠ [] := by
    intro hnil
    rw [hnil] at hsite
    cases hsite
  have hpublic : publicChars domain ≠ [] := by
    intro hnil
    rcases siteOf_publicChars hne with hsame | ⟨c, -, hend⟩
    · rw [← hsame, hnil] at hsite
      cases hsite
    · rw [hnil] at hend
      rcases hend with hend | hend <;> cases hend
  rw [parse_page hname hpublic (endsPath_of_mem_publicChars h)]
  constructor
  · rintro ⟨u, hread, hpage⟩
    cases hfound : readSite (siteOf (publicChars domain)) with
    | error fault =>
      rw [hfound] at hread
      cases hread
    | ok found =>
      rw [hfound] at hread
      cases hread
      obtain ⟨hfirst, hlast⟩ := ends_of_readSite (fun c => ne_backslash_of_mem_siteOf) hfound
      constructor
      · rcases siteOf_publicChars hne with hsame | ⟨c, hc, hend | hend⟩
        · exact hsame
        · simp [hfirst c hend] at hc
        · simp [hlast c hend] at hc
      · exact (path_page hname found).mp hpage.path
  · intro hsame
    rw [hsame.site, hsite]
    exact ⟨_, rfl, origin_same_ofParts _ _ site, (path_page hname site).mpr hsame.path, rfl, rfl⟩

theorem PublishedAsRead.of_forall (h : domainOrigin domain = .ok origin)
    (hplain : ∀ c ∈ domain.toList, isStray c = false ∧ c ≠ '\\') : PublishedAsRead domain := by
  have hblank : ∀ c ∈ domain.toList, isBlank c = false ∧ 32 < c.toNat := by
    intro c hc
    simpa [isStray] using (hplain c hc).1
  have htrim : trim domain = domain := by
    have hstrip : stripEnds isBlank domain.toList = domain.toList := by
      apply stripEnds_of_ends
      · exact fun c hc => (hblank c (List.mem_of_mem_head? hc)).1
      · exact fun c hc => (hblank c (List.mem_of_getLast? hc)).1
    rw [trim, hstrip, String.ofList_toList]
  have hslash : ∀ c ∈ domain.toList, anySlash c = false := by
    intro c hc
    have hsign := (signs_of_domainOrigin h c (htrim.symm ▸ hc)).1
    simp [anySlash, hsign, (hplain c hc).2]
  have hcounts : domain.toList.filter counts = domain.toList := by
    rw [List.filter_eq_self]
    exact fun c hc => counts_of_lt (hblank c hc).2
  have hpublic : publicChars domain = domain.toList := by
    rw [publicChars, hcounts, dropWhile_of_head]
    exact fun c hc => hslash c (List.mem_of_mem_head? hc)
  have hread : domainChars domain = domain.toList := by
    have hend : (domain.toList.reverse.dropWhile fun c => c.toNat ≤ 32) =
        domain.toList.reverse := by
      apply dropWhile_of_head
      intro c hc
      have hlt := (hblank c (List.mem_reverse.mp (List.mem_of_mem_head? hc))).2
      simpa using hlt
    change (List.filter counts _).dropWhile anySlash = _
    rw [htrim, hend, List.reverse_reverse]
    exact hpublic
  constructor
  · rw [hpublic, hread]
  · have hnone : domain.toList.dropWhile (!anySlash ·) = [] := by
      rw [List.dropWhile_eq_nil_iff]
      intro c hc
      simp [hslash c hc]
    rw [publicSegments, hpublic, hnone]
    rfl

end

/-- Settings that are accepted lead to endpoints, and the client has an origin. What they publish
are pages of that origin, so that a login that names no redirect URI has one, exactly if the domain
of the client is published as it is read; so always if no blank, no control and no backslash is in
it. -/
theorem publishes_iff {settings : Settings} (h : settings.validate = .ok ()) :
    (∃ e, Endpoints.ofSettings settings = .ok e) ∧
    ∃ origin, settings.appOrigin = .ok origin ∧
      (settings.Publishes origin ↔ PublishedAsRead settings.appDomain) ∧
      ((∀ c ∈ settings.appDomain.toList, isStray c = false ∧ c ≠ '\\') →
        PublishedAsRead settings.appDomain) := by
  obtain ⟨server, hserver, hvalid⟩ := exists_of_bind_eq_ok h
  obtain ⟨origin, horigin, -⟩ := exists_of_bind_eq_ok hvalid
  have hendpoints : ∃ e, Endpoints.ofSettings settings = .ok e := by
    have hopen : server.isPlain = false := by
      obtain ⟨site, -, rfl⟩ := exists_site_of_domainOrigin hserver
      rfl
    obtain ⟨e, he, -⟩ := Endpoints.exists_ofOrigin hopen
      (ClientMetadata.forDomain settings.appDomain).clientId
    exact ⟨e, Endpoints.ofSettings_of_origins hserver horigin he⟩
  refine ⟨hendpoints, origin, horigin, ⟨?_, ?_⟩, PublishedAsRead.of_forall horigin⟩
  · intro hpublishes
    exact (isPage_iff horigin namesPage_document).mp hpublishes.document
  · intro hsame
    obtain ⟨u, hread, hpage⟩ := (isPage_iff horigin namesPage_redirect).mpr hsame
    refine ⟨(isPage_iff horigin namesPage_document).mpr hsame, _, u, rfl, hread, hpage, ?_⟩
    rintro σ m _ w rfl
    unfold redirectOf
    change orFail .badOwnRedirect
      (Url.parse ("https://" ++ w.settings.appDomain ++ ("/" ++ "oauth-login"))) = pure u
    rw [hread]
    rfl

-- before the sign of a user name even a blank comes to nothing
example : PublishedAsRead " user@app.example" := by decide +kernel

set_option maxRecDepth 10000 in
/-- A port is published with the domain, and a tab in front of it does not count. -/
theorem publishes_with_port :
    let settings : Settings := { appDomain := "\tApp.Example:8443" }
    settings.validate = .ok () ∧ (∃ e, Endpoints.ofSettings settings = .ok e) ∧
    ∃ origin, settings.appOrigin = .ok origin ∧ origin.text = "https://app.example:8443/" ∧
      settings.Publishes origin := by
  intro settings
  have hvalid : settings.validate = .ok () := by decide +kernel
  have happ : settings.appOrigin = .ok (.ofHost (.name "app.example") (some 8443) [""]) := by
    decide +kernel
  have hsame : PublishedAsRead settings.appDomain := by decide +kernel
  obtain ⟨hendpoints, origin, horigin, hiff, -⟩ := publishes_iff hvalid
  obtain rfl := Except.ok.inj (happ.symm.trans horigin)
  exact ⟨hvalid, hendpoints, _, happ, by decide, hiff.mpr hsame⟩

set_option maxRecDepth 10000 in
/-- A domain with a blank in front is accepted, and neither the document nor the redirect URI that
is published for it is a URL, so that every login fails that names no redirect URI. A domain with a
backslash is accepted, too, and its document is published at another path. -/
theorem not_publishes_of_blank :
    let blank : Settings := { appDomain := " app.example" }
    let path : Settings := { appDomain := "app.example\\path" }
    (blank.validate = .ok () ∧
      blank.appOrigin = .ok (.ofHost (.name "app.example") none [""]) ∧
      Url.parse (ClientMetadata.forDomain blank.appDomain).clientId = .error .badDomainName ∧
      (∀ origin, ¬blank.Publishes origin) ∧
      ∀ {σ : Type} {m : Type → Type} [Monad m] (w : CommandContext σ m), w.settings = blank →
        redirectOf w none = throw (.badOwnRedirect .badDomainName)) ∧
    path.validate = .ok () ∧
      ∃ u, Url.parse (ClientMetadata.forDomain path.appDomain).clientId = .ok u ∧
        u.path.text = "/path/client-metadata.json" ∧ ∀ origin, ¬path.Publishes origin := by
  intro blank path
  have hdocument : Url.parse (ClientMetadata.forDomain blank.appDomain).clientId =
      .error .badDomainName := by decide +kernel
  have hredirect : Url.parse "https:// app.example/oauth-login" = .error .badDomainName := by
    decide +kernel
  have hpath : Url.parse (ClientMetadata.forDomain path.appDomain).clientId =
      .ok (.ofHost (.name "app.example") none ["path", "client-metadata.json"]) := by
    decide +kernel
  refine ⟨⟨by decide +kernel, by decide +kernel, hdocument, ?_, ?_⟩, by decide +kernel, _, hpath,
    by decide, ?_⟩
  · rintro origin ⟨⟨u, hread, -⟩, -⟩
    rw [hdocument] at hread
    cases hread
  · intro σ m _ w hw
    unfold redirectOf
    rw [hw]
    change orFail .badOwnRedirect (Url.parse "https:// app.example/oauth-login") = _
    rw [hredirect]
    rfl
  · rintro origin ⟨⟨u, hread, hpage⟩, -⟩
    rw [hpath] at hread
    cases hread
    exact absurd hpage.path (by decide)

end SignIn
