import SignIn.Proofs.Url.Authority

/-!
# Secure URLs in their parts

Behind `https://` stand a user name, a host with its port, and segments between slashes of either
kind. Without the signs `?` and `#` these are all the parts there are, and whether they are a URL is
a matter of the host and its port alone.
-/

namespace SignIn

open Text

namespace Url

/-! ## Ports -/

theorem isDigit_of_readPort {scheme : String} {cs rest : List Char} {port : Option UInt16}
    (hback : ∀ c ∈ cs, c ≠ '\\') (h : readPort scheme cs = .ok (port, rest)) :
    (∀ c ∈ cs, c.isDigit) ∧ rest = [] := by
  have hdrop : cs.drop (cs.takeWhile Char.isDigit).length = [] ∧
      rest = cs.drop (cs.takeWhile Char.isDigit).length := by
    unfold readPort at h
    dsimp only at h
    split_ifs at h with _ hhead
    all_goals
      cases h
      refine ⟨?_, rfl⟩
      cases hleft : cs.drop (cs.takeWhile Char.isDigit).length with
      | nil => rfl
      | cons c left =>
        have hin : c ∈ cs := List.mem_of_mem_drop (hleft ▸ List.mem_cons_self)
        rw [hleft] at hhead
        exact absurd (by simpa using hhead) (hback c hin)
  obtain ⟨hnil, rfl⟩ := hdrop
  refine ⟨fun c hc => ?_, hnil⟩
  rw [drop_length_takeWhile, List.dropWhile_eq_nil_iff] at hnil
  exact hnil c hc

/-! ## Hosts with a port -/

/-- A host and its port in a secure URL, from the characters between the user name and the path. -/
def readSite (site : List Char) : Except UrlFault (Host × Option UInt16) :=
  match splitPort false site with
  | ([], _) => .error .emptyHost
  | (c :: cs, none) => do return (← Host.special (c :: cs), none)
  | (c :: cs, some port) => do return (← Host.special (c :: cs), (← readPort "https" port).1)

theorem exists_of_readSite {site : List Char} {host : Host} {port : Option UInt16}
    (h : readSite site = .ok (host, port)) :
    ∃ c cs portChars, splitPort false site = (c :: cs, portChars) ∧
      Host.special (c :: cs) = .ok host ∧
      ∀ text, portChars = some text → ∃ rest, readPort "https" text = .ok (port, rest) := by
  unfold readSite at h
  split at h
  · cases h
  · next c cs hsplit =>
    obtain ⟨host', hhost, h⟩ := exists_of_bind_eq_ok h
    cases h
    exact ⟨c, cs, none, hsplit, hhost, fun _ hnone => nomatch hnone⟩
  · next c cs text hsplit =>
    obtain ⟨host', hhost, h⟩ := exists_of_bind_eq_ok h
    obtain ⟨⟨port', rest⟩, hport, h⟩ := exists_of_bind_eq_ok h
    cases h
    refine ⟨c, cs, some text, hsplit, hhost, fun _ hsome => ?_⟩
    cases hsome
    exact ⟨rest, hport⟩

/-! ## Behind the slashes -/

/-- The characters of user name and password before the last `@`, up to the first slash. -/
def infoOf (cs : List Char) : List Char := (splitUserinfo (cs.takeWhile (!anySlash ·))).1.getD []

/-- The characters of host and port, up to the first slash. -/
def siteOf (cs : List Char) : List Char := (splitUserinfo (cs.takeWhile (!anySlash ·))).2

/-- The characters of the segments behind the first slash. -/
def segmentsBehind (cs : List Char) : List (List Char) :=
  splitWhere anySlash ((cs.dropWhile (!anySlash ·)).drop 1)

theorem mem_of_mem_siteOf {cs : List Char} {c : Char} (h : c ∈ siteOf cs) :
    c ∈ cs ∧ anySlash c = false := by
  have hback : c ∈ (cutAt (· == '@') (cs.takeWhile (!anySlash ·)).reverse).1 := by
    simpa [siteOf, splitUserinfo] using h
  have hwhole := List.mem_reverse.mp (forall_of_cutAt rfl c hback).1
  exact ⟨(List.takeWhile_sublist _).mem hwhole, by simpa using List.mem_takeWhile_imp hwhole⟩

theorem ne_backslash_of_mem_siteOf {cs : List Char} {c : Char} (h : c ∈ siteOf cs) : c ≠ '\\' := by
  rintro rfl
  exact absurd (mem_of_mem_siteOf h).2 (by decide)

/-- Whether an authority can be read depends on its host and its port only. -/
theorem readAuthority_secure {cs : List Char} (hends : ∀ c ∈ cs, endsPath c = false) :
    readAuthority "https" cs = (readSite (siteOf cs)).map fun x =>
      (⟨(readUserinfo (infoOf cs)).1, (readUserinfo (infoOf cs)).2, some x.1, x.2⟩,
        cs.dropWhile (!anySlash ·)) := by
  have hwhole : cs.takeWhile (fun c => !(Style.of "https").endsAuthority c) =
      cs.takeWhile (!anySlash ·) := by
    apply takeWhile_congr
    intro c hc
    have hsigns : (c == '?' || c == '#') = false := hends c hc
    rw [Style.endsAuthority, Bool.or_assoc, hsigns, Bool.or_false]
    rfl
  have hback : ∀ c ∈ siteOf cs, c ≠ '\\' := fun c => ne_backslash_of_mem_siteOf
  have hspecial : (Style.of "https").special = true := rfl
  unfold siteOf at hback
  unfold readSite siteOf infoOf
  cases hsplit : splitUserinfo (cs.takeWhile (!anySlash ·)) with
  | mk user hostport =>
  rw [hsplit] at hback
  cases hinfo : readUserinfo (user.getD []) with
  | mk username password =>
  cases hparts : splitPort false hostport with
  | mk hostChars portChars =>
  simp only [readAuthority, hwhole, hsplit, hinfo, hparts, hspecial, drop_length_takeWhile]
  rcases hostChars with _ | ⟨first, hostChars⟩
  · split_ifs <;> rfl
  · have hhostport : hostport.isEmpty = false := by
      cases hostport with
      | nil => cases hparts
      | cons c cs => rfl
    have hfirst : (user == some [] && hostport.isEmpty && !(cs.dropWhile (!anySlash ·)).isEmpty) =
        false := by simp [hhostport]
    rw [hfirst]
    cases portChars with
    | none =>
      dsimp only
      cases Host.special (first :: hostChars) <;> rfl
    | some text =>
      dsimp only
      cases Host.special (first :: hostChars) with
      | error fault => rfl
      | ok host =>
        cases hread : readPort "https" text with
        | error fault => rfl
        | ok read =>
          obtain ⟨port, rest⟩ := read
          have hplain : ∀ c ∈ text, c ≠ '\\' := by
            intro c hc
            apply hback
            simp [splitPort_some hparts, hc]
          obtain ⟨-, rfl⟩ := isDigit_of_readPort hplain hread
          rfl

theorem readRootedPath_dropWhile {style : Style} (hslash : style.isSlash = anySlash)
    (hspecial : style.special) (hfile : style.file = false) (cs : List Char) :
    readRootedPath style (cs.dropWhile (!anySlash ·)) =
      .segments (pushSegments style [] (segmentsBehind cs)) := by
  have hhead := List.head?_dropWhile_not (!anySlash ·) cs
  unfold segmentsBehind
  cases hrest : cs.dropWhile (!anySlash ·) with
  | nil => simp [readRootedPath, readSegments, hslash, hspecial, hfile]
  | cons c rest =>
    have hc : anySlash c := by simpa [hrest] using hhead
    simp [readRootedPath, readSegments, hslash, hc, hfile]

theorem finish_of_endsPath {scheme : String} {a : Option Authority} {path : List Char → UrlPath}
    {cs : List Char} (h : ∀ c ∈ cs, endsPath c = false) :
    finish scheme a path cs = ⟨scheme, a, path cs, none, none⟩ := by
  have hwhole : cs.takeWhile (fun c => !endsPath c) = cs :=
    List.takeWhile_eq_self_iff.mpr (by simpa using h)
  unfold finish
  dsimp only
  rw [hwhole, List.drop_length]
  rfl

/-- A secure URL of characters without the signs `?` and `#`, in its parts. -/
def ofParts (cs : List Char) (site : Host × Option UInt16) : Url :=
  ⟨"https", some ⟨(readUserinfo (infoOf cs)).1, (readUserinfo (infoOf cs)).2, some site.1, site.2⟩,
    .segments (pushSegments (Style.of "https") [] (segmentsBehind cs)), none, none⟩

theorem readAfterSlashes_secure {cs : List Char} (hends : ∀ c ∈ cs, endsPath c = false) :
    readAfterSlashes "https" cs = (readSite (siteOf cs)).map (ofParts cs) := by
  have hrest : ∀ c ∈ cs.dropWhile (!anySlash ·), endsPath c = false :=
    fun c hc => hends c ((List.dropWhile_sublist _).mem hc)
  have hfinish : ∀ a, finish "https" a (readRootedPath (Style.of "https"))
      (cs.dropWhile (!anySlash ·)) = ⟨"https", a,
        .segments (pushSegments (Style.of "https") [] (segmentsBehind cs)), none, none⟩ := by
    intro a
    rw [finish_of_endsPath hrest, readRootedPath_dropWhile rfl rfl rfl]
  unfold readAfterSlashes
  rw [readAuthority_secure hends]
  cases readSite (siteOf cs) with
  | error fault => rfl
  | ok site => exact congrArg Except.ok (hfinish _)

/-- Whether a character counts wherever it stands in a URL: it is no tab and no line break. -/
def counts (c : Char) : Bool := c != '\t' && c != '\n' && c != '\r'

/-- The characters that count of a text behind `https://`. -/
def secureChars (s : String) : List Char :=
  ((s.toList.reverse.dropWhile fun c => c.toNat ≤ 32).reverse.filter counts).dropWhile anySlash

theorem parse_secure (s : String) :
    Url.parse ("https://" ++ s) = readAfterSlashes "https" (secureChars s) := by
  have hstrip : stripEnds (fun c => c.toNat ≤ 32) ("https://" ++ s).toList =
      "https://".toList ++ (s.toList.reverse.dropWhile fun c => c.toNat ≤ 32).reverse := by
    rw [String.toList_append]
    apply stripEnds_append (by decide)
    · exact fun c hc => by cases hc; rfl
    · exact fun c hc => by cases hc; rfl
  have hchars : significant ("https://" ++ s) = 'h' :: 't' :: 't' :: 'p' :: 's' :: ':' :: '/' ::
      '/' :: (s.toList.reverse.dropWhile fun c => c.toNat ≤ 32).reverse.filter counts := by
    unfold significant
    rw [hstrip, List.filter_append]
    rfl
  unfold Url.parse Url.read secureChars
  dsimp only
  rw [hchars]
  generalize List.filter _ _ = cs
  have hscheme : readScheme? ('h' :: 't' :: 't' :: 'p' :: 's' :: ':' :: '/' :: '/' :: cs) =
      some ("https", '/' :: '/' :: cs) := rfl
  rw [hscheme]
  rfl

end Url

end SignIn
