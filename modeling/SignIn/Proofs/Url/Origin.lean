import Mathlib.Data.List.Basic
import SignIn.Url.Origin

/-!
# What an origin is made of

The origin of a URL is that of the URL at the end of the chain of those that are carried in one
another. Each link of the chain uses up a colon, so the depth to which `Url.origin` looks is always
enough. Two origins are the same exactly if scheme, host and port at the ends of the chains are.
-/

namespace SignIn

/-- A URL carries itself, and a blob carries what the URL carries that its path spells. -/
inductive Url.Carries : Url → Url → Prop
  | self (u : Url) : Carries u u
  | blob {u inner v : Url} (hscheme : u.scheme = "blob") (hpath : Url.parse u.path.text = .ok inner)
      (hcarries : Carries inner v) : Carries u v

/-- Two URLs have the same scheme, the same host and the same port. -/
structure Url.SameSite (u v : Url) : Prop where
  scheme : u.scheme = v.scheme
  host : ∃ host, u.host? = some host ∧ v.host? = some host
  port : u.effectivePort? = v.effectivePort?

/-- A URL carries one of the site of a node; only a blob carries another than itself. -/
def Url.LandsOn (u node : Url) : Prop := ∃ v, u.Carries v ∧ v.SameSite node

namespace Url

/-! ## Colons -/

theorem hexDigit_ne_colon (n : UInt8) : Char.ofNat (Bytes.upperHexDigit n).toNat ≠ ':' := by
  have hall : ∀ k : Fin 256, Char.ofNat (Bytes.upperHexDigit (UInt8.ofNat k)).toNat ≠ ':' := by
    decide +kernel
  have h := hall ⟨n.toNat, n.toNat_lt⟩
  rwa [UInt8.ofNat_toNat] at h

theorem colon_notMem_percentByte (b : UInt8) : ':' ∉ percentByte b := by
  simp [percentByte, (hexDigit_ne_colon _).symm]

theorem count_percentEncode_le (inSet : Char → Bool) (cs : List Char) :
    (percentEncode inSet cs).count ':' ≤ cs.count ':' := by
  induction cs with
  | nil => exact Nat.le_refl _
  | cons c cs ih =>
    have hcons : percentEncode inSet (c :: cs) =
        (if c.toNat ≥ 128 || inSet c then (charBytes c).flatMap percentByte else [c]) ++
          percentEncode inSet cs := List.flatMap_cons
    rw [hcons, List.count_append, List.count_cons]
    split
    · have hnone : ((charBytes c).flatMap percentByte).count ':' = 0 := by
        simp [List.count_eq_zero, colon_notMem_percentByte]
      omega
    · rw [List.count_singleton]
      omega

theorem stripEnds_sublist (p : Char → Bool) (cs : List Char) :
    (Text.stripEnds p cs).Sublist cs := by
  have hend : (Text.stripEnds p cs).Sublist (cs.dropWhile p) := by
    unfold Text.stripEnds
    rw [← List.reverse_sublist, List.reverse_reverse]
    exact List.dropWhile_sublist p
  exact hend.trans (List.dropWhile_sublist p)

theorem significant_sublist (s : String) : (significant s).Sublist s.toList :=
  List.filter_sublist.trans (stripEnds_sublist _ _)

theorem exists_of_readScheme? {cs rest : List Char} {scheme : String}
    (h : readScheme? cs = some (scheme, rest)) : ∃ name, cs = name ++ ':' :: rest := by
  simp only [readScheme?] at h
  split at h
  · next c name rest' hname hdrop =>
    split at h
    · cases h
      exact ⟨_, by rw [← hdrop, List.take_append_drop]⟩
    · cases h
  · cases h

/-! ## Paths of parsed URLs -/

theorem exists_segments_of_readRootedPath (style : Style) (cs : List Char) :
    ∃ parts, readRootedPath style cs = .segments parts := by
  unfold readRootedPath
  split <;> split <;> exact ⟨_, rfl⟩

theorem exists_segments_of_readAfterSlashes {scheme : String} {cs : List Char} {u : Url}
    (h : readAfterSlashes scheme cs = .ok u) : ∃ parts, u.path = .segments parts := by
  unfold readAfterSlashes at h
  cases hauthority : readAuthority scheme cs with
  | error fault =>
    rw [hauthority] at h
    cases h
  | ok read =>
    rw [hauthority] at h
    cases h
    exact exists_segments_of_readRootedPath _ _

theorem exists_segments_of_readFile {cs : List Char} {u : Url}
    (h : readFile none cs = .ok u) : ∃ parts, u.path = .segments parts := by
  have hrelative : ∀ cs, readFile.relative none cs = .ok u → ∃ parts, u.path = .segments parts := by
    intro cs h
    cases h
    exact ⟨_, rfl⟩
  unfold readFile at h
  dsimp only at h
  split at h
  · split at h
    · split at h
      · cases h
        exact ⟨_, rfl⟩
      · split at h
        · cases h
          exact ⟨_, rfl⟩
        · generalize Host.special _ = host at h
          cases host with
          | error fault => cases h
          | ok host =>
            cases h
            exact ⟨_, rfl⟩
    · split at h
      · split at h
        · cases h
          exact ⟨_, rfl⟩
        · cases h
          exact ⟨_, rfl⟩
      · exact hrelative _ h
  · exact hrelative _ h

/-- The path of a parsed URL has segments, or fewer colons than the text. -/
theorem path_of_parse {s : String} {u : Url} (h : Url.parse s = .ok u) :
    (∃ parts, u.path = .segments parts) ∨
      ∃ t, u.path = .plain t ∧ t.toList.count ':' < s.toList.count ':' := by
  unfold Url.parse read at h
  dsimp only at h
  cases hscheme : readScheme? (significant s) with
  | none =>
    rw [hscheme] at h
    cases h
  | some read =>
    obtain ⟨scheme, rest⟩ := read
    rw [hscheme] at h
    dsimp only [readWithScheme] at h
    split at h
    · exact .inl (exists_segments_of_readFile h)
    · split at h
      · exact .inl (exists_segments_of_readAfterSlashes h)
      · split at h
        · exact .inl (exists_segments_of_readAfterSlashes h)
        · cases h
          exact .inl ⟨_, rfl⟩
        · cases h
          obtain ⟨name, hname⟩ := exists_of_readScheme? hscheme
          have hwhole : rest.count ':' < s.toList.count ':' := by
            refine Nat.lt_of_lt_of_le ?_ ((significant_sublist s).count_le ':')
            rw [hname, List.count_append, List.count_cons_self]
            omega
          refine .inr ⟨_, rfl, Nat.lt_of_le_of_lt ?_ hwhole⟩
          rw [String.toList_ofList]
          exact Nat.le_trans (count_percentEncode_le _ _) ((List.takeWhile_sublist _).count_le ':')

theorem exists_stripEnds_cons {p : Char → Bool} {c : Char} (hc : p c = false) (cs : List Char) :
    ∃ cs', Text.stripEnds p (c :: cs) = c :: cs' := by
  unfold Text.stripEnds
  rw [List.dropWhile_cons_of_neg (by simp [hc]), List.reverse_cons, List.dropWhile_append]
  split
  · exact ⟨[], by simp [hc]⟩
  · exact ⟨_, by rw [List.reverse_append, List.reverse_singleton, List.singleton_append]⟩

theorem parse_segments_ne_ok (parts : List String) (u : Url) :
    Url.parse (UrlPath.segments parts).text ≠ .ok u := by
  have hscheme : readScheme? (significant (UrlPath.segments parts).text) = none := by
    cases parts with
    | nil => rfl
    | cons part parts =>
      have hslash : (UrlPath.segments (part :: parts)).text.toList =
          '/' :: (part ++ (UrlPath.segments parts).text).toList := by
        simp [UrlPath.text]
      obtain ⟨cs, hcs⟩ := exists_stripEnds_cons (p := fun c => c.toNat ≤ 32) (c := '/') rfl
        (part ++ (UrlPath.segments parts).text).toList
      simp only [significant, hslash, hcs]
      rfl
  unfold Url.parse read
  dsimp only
  rw [hscheme]
  intro h
  cases h

/-! ## Origins -/

theorem Carries.eq_of_not_blob {u v : Url} (h : u.Carries v) (hscheme : u.scheme ≠ "blob") :
    u = v := by
  cases h with
  | self => rfl
  | blob hblob => exact absurd hblob hscheme

end Url

namespace Origin

variable {u v : Url} {scheme : String} {host : Host} {port : UInt16}

theorem same_iff {a b : Origin} :
    a.same b ↔ ∃ scheme host port, a = .web scheme host port ∧ b = .web scheme host port := by
  constructor
  · intro h
    cases a with
    | unique => cases h
    | web scheme host port =>
      cases b with
      | unique => cases h
      | web scheme' host' port' =>
        simp only [same, Bool.and_eq_true, beq_iff_eq] at h
        obtain ⟨⟨rfl, rfl⟩, rfl⟩ := h
        exact ⟨scheme, host, port, rfl, rfl⟩
  · rintro ⟨scheme, host, port, rfl, rfl⟩
    simp [same]

theorem ofUrlWithin_eq_web_iff {depth : Nat} (hblob : u.scheme ≠ "blob") :
    ofUrlWithin depth u = .web scheme host port ↔
      u.scheme = scheme ∧ u.host? = some host ∧ u.effectivePort? = some port ∧
        isSpecial scheme ∧ scheme ≠ "file" := by
  unfold ofUrlWithin
  rw [if_neg hblob]
  by_cases hfile : u.scheme = "file"
  · rw [if_pos hfile]
    constructor
    · intro h
      cases h
    · rintro ⟨rfl, -, -, -, hne⟩
      exact absurd hfile hne
  · rw [if_neg hfile]
    cases hhost : u.host? with
    | none => simp
    | some host' =>
      cases hport : u.effectivePort? with
      | none => simp
      | some port' =>
        by_cases hspecial : isSpecial u.scheme
        · simp only [if_pos hspecial, web.injEq, Option.some.injEq]
          constructor
          · rintro ⟨rfl, rfl, rfl⟩
            exact ⟨rfl, rfl, rfl, hspecial, hfile⟩
          · rintro ⟨rfl, rfl, rfl, -⟩
            exact ⟨rfl, rfl, rfl⟩
        · simp only [if_neg hspecial, reduceCtorEq, false_iff]
          rintro ⟨rfl, -, -, hspecial', -⟩
          exact hspecial hspecial'

theorem exists_carried_of_ofUrlWithin {depth : Nat}
    (h : ofUrlWithin depth u = .web scheme host port) :
    ∃ v, u.Carries v ∧ v.scheme ≠ "blob" ∧ ofUrlWithin 0 v = .web scheme host port := by
  induction depth generalizing u with
  | zero =>
    by_cases hblob : u.scheme = "blob"
    · simp [ofUrlWithin, hblob] at h
    · exact ⟨u, .self u, hblob, h⟩
  | succ depth ih =>
    by_cases hblob : u.scheme = "blob"
    · unfold ofUrlWithin at h
      rw [if_pos hblob] at h
      dsimp only at h
      cases hpath : Url.parse u.path.text with
      | error fault => simp [hpath] at h
      | ok inner =>
        rw [hpath] at h
        obtain ⟨v, hcarries, hv⟩ := ih h
        exact ⟨v, .blob hblob hpath hcarries, hv⟩
    · exact ⟨u, .self u, hblob,
        (ofUrlWithin_eq_web_iff hblob).mpr ((ofUrlWithin_eq_web_iff hblob).mp h)⟩

/-- A depth is enough that exceeds the number of colons in the path. -/
theorem ofUrlWithin_of_carries (h : u.Carries v) (hblob : v.scheme ≠ "blob")
    (hv : ofUrlWithin 0 v = .web scheme host port) {depth : Nat}
    (hdepth : u.scheme = "blob" → u.path.text.toList.count ':' < depth) :
    ofUrlWithin depth u = .web scheme host port := by
  induction h generalizing depth with
  | self u => exact (ofUrlWithin_eq_web_iff hblob).mpr ((ofUrlWithin_eq_web_iff hblob).mp hv)
  | @blob u inner v hscheme hpath hcarries ih =>
    obtain ⟨depth, rfl⟩ := Nat.exists_eq_add_one_of_ne_zero (Nat.ne_zero_of_lt (hdepth hscheme))
    have hstep : ofUrlWithin (depth + 1) u = ofUrlWithin depth inner := by
      rw [ofUrlWithin, if_pos hscheme]
      simp only [hpath]
    rw [hstep]
    refine ih hblob hv fun hinner => ?_
    have hlt := hdepth hscheme
    rcases Url.path_of_parse hpath with ⟨parts, hparts⟩ | ⟨t, ht, hcount⟩
    · -- a blob whose path has segments carries only itself
      cases hcarries with
      | self => exact absurd hinner hblob
      | blob _ hpath' =>
        rw [hparts] at hpath'
        exact absurd hpath' (Url.parse_segments_ne_ok parts _)
    · rw [ht]
      change t.toList.count ':' < depth
      omega

end Origin

namespace Url

variable {u : Url}

theorem count_path_lt_length (u : Url) : u.path.text.toList.count ':' < u.text.length := by
  have hle : u.path.text.toList.count ':' ≤ u.path.text.length := List.count_le_length
  have hlt : u.path.text.length < u.text.length := by
    unfold text
    simp only [String.length_append]
    have hcolon : ":".length = 1 := rfl
    omega
  omega

theorem origin_eq_web_iff {scheme : String} {host : Host} {port : UInt16} :
    u.origin = .web scheme host port ↔
      ∃ v, u.Carries v ∧ v.scheme ≠ "blob" ∧ Origin.ofUrlWithin 0 v = .web scheme host port := by
  constructor
  · exact Origin.exists_carried_of_ofUrlWithin
  · rintro ⟨v, hcarries, hblob, hv⟩
    exact Origin.ofUrlWithin_of_carries hcarries hblob hv fun _ => count_path_lt_length u

/-- A URL has the origin of a node in the web exactly if it lands on the node. -/
theorem origin_same_iff {node : Url} (hnode : node.scheme = "http" ∨ node.scheme = "https") :
    u.origin.same node.origin ↔ u.LandsOn node := by
  have hblob : node.scheme ≠ "blob" := by rcases hnode with h | h <;> rw [h] <;> decide
  rw [Origin.same_iff]
  constructor
  · rintro ⟨scheme, host, port, hu, hown⟩
    obtain ⟨v, hcarries, hv, horigin⟩ := origin_eq_web_iff.mp hu
    obtain ⟨v', hcarries', -, horigin'⟩ := origin_eq_web_iff.mp hown
    obtain rfl := hcarries'.eq_of_not_blob hblob
    obtain ⟨hscheme, hhost, hport, -⟩ := (Origin.ofUrlWithin_eq_web_iff hv).mp horigin
    obtain ⟨hscheme', hhost', hport', -⟩ := (Origin.ofUrlWithin_eq_web_iff hblob).mp horigin'
    exact ⟨v, hcarries, hscheme.trans hscheme'.symm, ⟨host, hhost, hhost'⟩,
      hport.trans hport'.symm⟩
  · rintro ⟨v, hcarries, hscheme, ⟨host, hhost, hhost'⟩, hport⟩
    obtain ⟨port, hport'⟩ : ∃ port, node.effectivePort? = some port := by
      refine Option.isSome_iff_exists.mp ?_
      rw [effectivePort?, Option.isSome_or]
      rcases hnode with h | h <;> rw [h] <;> simp [defaultPort?]
    have hspecial : isSpecial node.scheme ∧ node.scheme ≠ "file" := by
      rcases hnode with h | h <;> rw [h] <;> decide
    have hown : ∀ w : Url, w.scheme = node.scheme → w.host? = some host →
        w.effectivePort? = some port → ∀ depth,
        Origin.ofUrlWithin depth w = .web node.scheme host port := by
      intro w hw hwhost hwport depth
      exact (Origin.ofUrlWithin_eq_web_iff (hw ▸ hblob)).mpr ⟨hw, hwhost, hwport, hspecial⟩
    refine ⟨node.scheme, host, port, origin_eq_web_iff.mpr ⟨v, hcarries, hscheme ▸ hblob, ?_⟩, ?_⟩
    · exact hown v hscheme hhost (hport.trans hport') 0
    · exact hown node rfl hhost' hport' _

end Url

end SignIn
