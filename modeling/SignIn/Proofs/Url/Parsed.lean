import Mathlib.Data.String.Basic
import SignIn.Proofs.Url.Origin
import SignIn.Proofs.Url.Reading

/-!
# What is read stays as it is

Every URL that is read has parts that need no more encoding: its segments are no dot segments even
when their encoding is undone, its host is in ASCII or an address, its port is not the usual one.
So a URL that is read is read back from its text. The exception is a file URL with a host whose
path begins with the letter of a drive and a bar behind empty segments: these are dropped, and then
the bar is read as a colon.
-/

namespace SignIn

open Text Url

namespace Url

variable {style : Style} {u : Url}

/-! ## Dot segments -/

/-- A number of dots, each as a sign or percent-encoded. -/
inductive Dots : Nat → List Char → Prop
  | nil : Dots 0 []
  | sign {n : Nat} {cs : List Char} (h : Dots n cs) : Dots (n + 1) ('.' :: cs)
  | encoded {n : Nat} {c : Char} {cs : List Char} (hc : c = 'e' ∨ c = 'E') (h : Dots n cs) :
      Dots (n + 1) ('%' :: '2' :: c :: cs)

theorem eq_of_toLower {c d : Char} (h : c.toLower = d) (hd : d.isAlpha = false) : c = d := by
  rw [← h] at hd
  rcases Nat.lt_or_ge c.toNat 128 with hascii | hlarge
  · rw [← h]
    exact forall_below (P := fun c => c.toLower.isAlpha = false → c = c.toLower)
      (by decide) hascii hd
  · rw [← h, Domain.toLower_of_le hlarge]

theorem eq_e_of_toLower {c : Char} (h : c.toLower = 'e') : c = 'e' ∨ c = 'E' := by
  rcases Nat.lt_or_ge c.toNat 128 with hascii | hlarge
  · exact forall_below (P := fun c => c.toLower = 'e' → c = 'e' ∨ c = 'E') (by decide) hascii h
  · rw [Domain.toLower_of_le hlarge] at h
    exact .inl h

theorem exists_of_map_toLower {cs ds : List Char} {d : Char} (h : cs.map Char.toLower = d :: ds)
    (hd : d.isAlpha = false) : ∃ rest, cs = d :: rest ∧ rest.map Char.toLower = ds := by
  obtain ⟨c, rest, rfl, hc, hrest⟩ := List.map_eq_cons_iff.1 h
  exact ⟨rest, by rw [eq_of_toLower hc hd], hrest⟩

theorem dots_of_sign {n : Nat} {cs ds : List Char} (h : cs.map Char.toLower = '.' :: ds)
    (hrest : ∀ rest : List Char, rest.map Char.toLower = ds → Dots n rest) : Dots (n + 1) cs := by
  obtain ⟨rest, rfl, hlower⟩ := exists_of_map_toLower h rfl
  exact .sign (hrest rest hlower)

theorem dots_of_encoded {n : Nat} {cs ds : List Char}
    (h : cs.map Char.toLower = '%' :: '2' :: 'e' :: ds)
    (hrest : ∀ rest : List Char, rest.map Char.toLower = ds → Dots n rest) : Dots (n + 1) cs := by
  obtain ⟨rest₁, rfl, h₁⟩ := exists_of_map_toLower h rfl
  obtain ⟨rest₂, rfl, h₂⟩ := exists_of_map_toLower h₁ rfl
  obtain ⟨c, rest₃, rfl, hc, h₃⟩ := List.map_eq_cons_iff.1 h₂
  exact .encoded (eq_e_of_toLower hc) (hrest rest₃ h₃)

theorem dots_zero {rest : List Char} (h : rest.map Char.toLower = []) : Dots 0 rest := by
  rw [List.map_eq_nil_iff.1 h]
  exact .nil

theorem dots_of_isSingleDot {cs : List Char} (h : isSingleDot cs) : Dots 1 cs := by
  simp only [isSingleDot, List.contains_cons, List.contains_nil, Bool.or_false, Bool.or_eq_true,
    beq_iff_eq, String.ofList_eq] at h
  rcases h with h | h
  · exact dots_of_sign h fun _ => dots_zero
  · exact dots_of_encoded h fun _ => dots_zero

theorem dots_of_isDoubleDot {cs : List Char} (h : isDoubleDot cs) : Dots 2 cs := by
  simp only [isDoubleDot, List.contains_cons, List.contains_nil, Bool.or_false, Bool.or_eq_true,
    beq_iff_eq, String.ofList_eq] at h
  rcases h with h | h | h | h
  · exact dots_of_sign h fun _ hrest => dots_of_sign hrest fun _ => dots_zero
  · exact dots_of_sign h fun _ hrest => dots_of_encoded hrest fun _ => dots_zero
  · exact dots_of_encoded h fun _ hrest => dots_of_sign hrest fun _ => dots_zero
  · exact dots_of_encoded h fun _ hrest => dots_of_encoded hrest fun _ => dots_zero

theorem eq_dot_of_percentByte {b : UInt8} {c : Char} (h : percentByte b = ['%', '2', c])
    (hc : c = 'e' ∨ c = 'E') : b = 46 := by
  have table : ∀ n < 256, percentByte (UInt8.ofNat n) = ['%', '2', 'e'] ∨
      percentByte (UInt8.ofNat n) = ['%', '2', 'E'] → n = 46 := by
    decide +kernel
  have hb := table b.toNat b.toNat_lt
  rw [UInt8.ofNat_toNat] at hb
  apply UInt8.toNat_inj.1
  apply hb
  rcases hc with rfl | rfl
  · exact .inl h
  · exact .inr h

variable {inSet : Char → Bool}

theorem percentEncode_eq_cons {cs ds : List Char} {d : Char}
    (h : percentEncode inSet cs = d :: ds) (hd : d ≠ '%') :
    ∃ rest, cs = d :: rest ∧ percentEncode inSet rest = ds := by
  cases cs with
  | nil => cases h
  | cons c cs =>
    rw [percentEncode_cons] at h
    split_ifs at h with hset
    · obtain ⟨b, bs, hbs⟩ := List.exists_cons_of_ne_nil (charBytes_ne_nil c)
      rw [hbs, List.flatMap_cons] at h
      cases h
      exact absurd rfl hd
    · cases h
      exact ⟨cs, rfl, rfl⟩

theorem percentEncode_eq_self_of_dots {n : Nat} {cs : List Char}
    (h : Dots n (percentEncode pathSet cs)) : percentEncode pathSet cs = cs := by
  generalize hout : percentEncode pathSet cs = out at h
  induction h generalizing cs with
  | nil =>
    cases cs with
    | nil => rfl
    | cons c cs => exact absurd hout (percentEncode_ne_nil (by simp))
  | sign _ ih =>
    obtain ⟨rest, rfl, hrest⟩ := percentEncode_eq_cons hout (by decide)
    rw [ih hrest]
  | @encoded n c ds hc _ ih =>
    cases cs with
    | nil => cases hout
    | cons d cs =>
      rw [percentEncode_cons] at hout
      split_ifs at hout with hset
      · exfalso
        obtain ⟨b, bs, hbs⟩ := List.exists_cons_of_ne_nil (charBytes_ne_nil d)
        rw [hbs, List.flatMap_cons] at hout
        have hbyte : percentByte b = ['%', '2', c] := by
          have htake := congrArg (List.take 3) hout
          simpa [percentByte] using htake
        have hb : b = 46 := eq_dot_of_percentByte hbyte hc
        rcases Bytes.utf8EncodeChar_cases d with ⟨hascii, hone⟩ | hlarge
        · have hdot : UInt8.ofNat d.toNat = 46 := by
            have hfirst := hbs.symm.trans hone
            simp only [List.cons.injEq] at hfirst
            rw [← hfirst.1, hb]
          have hpath : pathSet d = false := forall_below
            (P := fun d => UInt8.ofNat d.toNat = 46 → pathSet d = false) (by decide) hascii hdot
          simp [hpath, Nat.not_le.2 hascii] at hset
        · have hle := hlarge b (by rw [← charBytes, hbs]; simp)
          rw [hb] at hle
          exact absurd hle (by decide)
      · rw [List.singleton_append, List.cons.injEq] at hout
        obtain ⟨rfl, hout⟩ := hout
        have hc' : c ≠ '%' := by rcases hc with rfl | rfl <;> decide
        obtain ⟨rest₁, rfl, h₁⟩ := percentEncode_eq_cons hout (by decide)
        obtain ⟨rest₂, rfl, h₂⟩ := percentEncode_eq_cons h₁ hc'
        rw [ih h₂]

/-! ## Segments -/

theorem isSlash_eq_false {c : Char} (hslash : c ≠ '/') (hback : c ≠ '\\') :
    style.isSlash c = false := by
  simp [Style.isSlash, hslash, hback]

theorem settledSegment_empty : SettledSegment style "" := by
  constructor
  · simp [Clean]
  · simp
  · decide
  · decide

theorem settledSegment_encoded {seg : List Char} (hslash : ∀ c ∈ seg, style.isSlash c = false)
    (hsingle : isSingleDot seg = false) (hdouble : isDoubleDot seg = false) :
    SettledSegment style (String.ofList (percentEncode pathSet seg)) := by
  have hdigits : ∀ c ∈ percentDigits, c ≠ '/' ∧ c ≠ '\\' := forall_of_all (by decide)
  constructor <;> rw [String.toList_ofList]
  · exact clean_percentEncode (forall_of_all (by decide)) seg
  · apply forall_percentEncode
    · intro c hc
      exact isSlash_eq_false (hdigits c hc).1 (hdigits c hc).2
    · exact fun c hc _ _ => hslash c hc
  · rw [← Bool.not_eq_true]
    intro h
    rw [percentEncode_eq_self_of_dots (dots_of_isSingleDot h), hsingle] at h
    cases h
  · rw [← Bool.not_eq_true]
    intro h
    rw [percentEncode_eq_self_of_dots (dots_of_isDoubleDot h), hdouble] at h
    cases h

theorem settledSegment_drive {c : Char} (hc : c.isAlpha) :
    SettledSegment style (String.ofList [c, ':']) := by
  have hscheme : isSchemeChar c := by simp [isSchemeChar, Char.isAlphanum, hc]
  have hfacts := forall_below (P := fun c => c.isAlpha → pathSet c = false ∧ c ≠ '/' ∧ c ≠ '\\')
    (by decide) (toNat_lt_of_isSchemeChar hscheme) hc
  constructor <;> rw [String.toList_ofList]
  · intro d hd
    simp only [List.mem_cons, List.not_mem_nil, or_false] at hd
    rcases hd with rfl | rfl
    · exact ⟨toNat_lt_of_isSchemeChar hscheme, hfacts.1⟩
    · decide
  · intro d hd
    simp only [List.mem_cons, List.not_mem_nil, or_false] at hd
    rcases hd with rfl | rfl
    · exact isSlash_eq_false hfacts.2.1 hfacts.2.2
    · exact isSlash_eq_false (by decide) (by decide)
  · rw [← Bool.not_eq_true]
    intro h
    cases dots_of_isSingleDot h with
    | sign h => cases h
  · rw [← Bool.not_eq_true]
    intro h
    cases dots_of_isDoubleDot h with
    | sign h => cases h

theorem settled_pushSegments {before : List String} {segs : List (List Char)}
    (hbefore : ∀ part ∈ before, SettledSegment style part)
    (hsegs : ∀ seg ∈ segs, ∀ c ∈ seg, style.isSlash c = false) :
    ∀ part ∈ pushSegments style before segs, SettledSegment style part := by
  induction segs generalizing before with
  | nil => exact hbefore
  | cons seg segs ih =>
    have hclose : ∀ parts : List String, (∀ part ∈ parts, SettledSegment style part) →
        ∀ part ∈ (if segs.isEmpty then parts ++ [""] else parts), SettledSegment style part := by
      intro parts hparts
      split_ifs
      · exact List.forall_mem_append.2 ⟨hparts, by simpa using settledSegment_empty⟩
      · exact hparts
    unfold pushSegments
    dsimp only
    apply ih
    · by_cases hdouble : isDoubleDot seg
      · rw [if_pos hdouble]
        apply hclose
        intro part hpart
        unfold dropLastSegment at hpart
        split_ifs at hpart
        · exact hbefore part hpart
        · exact hbefore part ((List.dropLast_sublist before).mem hpart)
      rw [if_neg hdouble]
      by_cases hsingle : isSingleDot seg
      · rw [if_pos hsingle]
        exact hclose before hbefore
      rw [if_neg hsingle]
      split_ifs with hdrive
      · simp only [Bool.and_eq_true] at hdrive
        have hletter := hdrive.2
        unfold isDrive at hletter
        split at hletter
        · next c d =>
          simp only [Bool.and_eq_true] at hletter
          simpa using settledSegment_drive hletter.1
        · cases hletter
      · have hencoded := settledSegment_encoded (hsegs seg (by simp)) (by simpa using hsingle)
          (by simpa using hdouble)
        exact List.forall_mem_append.2 ⟨hbefore, by simpa using hencoded⟩
    · exact fun seg hseg => hsegs seg (List.mem_cons_of_mem _ hseg)

theorem pushSegments_ne_nil {before : List String} {segs : List (List Char)} (h : segs ≠ []) :
    pushSegments style before segs ≠ [] := by
  induction segs generalizing before with
  | nil => exact absurd rfl h
  | cons seg segs ih =>
    unfold pushSegments
    dsimp only
    by_cases hsegs : segs = []
    · subst hsegs
      simp only [pushSegments, List.isEmpty_nil, if_true]
      split_ifs <;> simp
    · exact ih hsegs

theorem fileSegments_cases (parts : List String) :
    fileSegments parts = [""] ∨
      (fileSegments parts ≠ [] ∧ (fileSegments parts).head? ≠ some "" ∧
        ∀ part ∈ fileSegments parts, part ∈ parts) := by
  unfold fileSegments
  split
  · exact .inl rfl
  · next hne =>
    right
    refine ⟨hne, ?_, fun part hpart => (List.dropWhile_sublist _).mem hpart⟩
    intro hhead
    have hnot := List.head?_dropWhile_not (fun s : String => s == "") parts
    rw [hhead] at hnot
    simp at hnot

variable {rooted : Bool} {parts : List String} {cs : List Char}

theorem settled_of_readSegments (h : readSegments style [] cs = .segments parts) :
    SettledSegments style rooted parts := by
  have hpush : ∀ part ∈ pushSegments style [] (Text.splitWhere style.isSlash cs),
      SettledSegment style part := by
    apply settled_pushSegments
    · simp
    · exact fun seg hseg c hc => (mem_of_mem_splitWhere hseg c hc).2
  have hne : pushSegments style [] (Text.splitWhere style.isSlash cs) ≠ [] :=
    pushSegments_ne_nil (splitWhere_ne_nil style.isSlash cs)
  unfold readSegments at h
  dsimp only at h
  rw [UrlPath.segments.injEq] at h
  subst h
  split_ifs with hfile
  · rcases fileSegments_cases (pushSegments style [] (Text.splitWhere style.isSlash cs)) with
      hempty | ⟨hsome, hhead, hmem⟩
    · rw [hempty]
      exact ⟨by simpa using settledSegment_empty, fun _ => by simp, fun _ => .inl rfl⟩
    · exact ⟨fun part hpart => hpush part (hmem part hpart), fun _ => hsome, fun _ => .inr hhead⟩
  · exact ⟨hpush, fun _ => hne, fun hpos => absurd hpos hfile⟩

theorem settled_of_readRootedPath (h : readRootedPath style cs = .segments parts)
    (hfile : style.file = false) : SettledSegments style true parts := by
  unfold readRootedPath at h
  split at h
  · split_ifs at h with hspecial
    · exact settled_of_readSegments h
    · cases h
      exact ⟨by simp, fun hor => by simp [hspecial] at hor, fun hpos => by simp [hfile] at hpos⟩
  · split_ifs at h
    · exact settled_of_readSegments h
    · exact settled_of_readSegments h

/-! ## Whole URLs -/

theorem settled_of_readScheme? {scheme : String} {rest : List Char}
    (h : readScheme? cs = some (scheme, rest)) : SettledScheme scheme.toList := by
  have hsmall : ∀ c : Char, isSchemeChar c → isSchemeChar c.toLower ∧
      c.toLower.toLower = c.toLower ∧ (c.isAlpha → c.toLower.isAlpha) := fun c hc =>
    forall_below (P := fun c => isSchemeChar c → isSchemeChar c.toLower ∧
      c.toLower.toLower = c.toLower ∧ (c.isAlpha → c.toLower.isAlpha)) (by decide)
      (toNat_lt_of_isSchemeChar hc) hc
  unfold readScheme? at h
  dsimp only at h
  split at h
  · next c name rest' hname hdrop =>
    split_ifs at h with halpha
    cases h
    have hchars : ∀ d ∈ c :: name, isSchemeChar d := by
      rw [← hname]
      intro d hd
      exact List.all_eq_true.1 List.all_takeWhile d hd
    constructor
    · intro d hd
      rw [String.toList_ofList, hname] at hd
      obtain ⟨capital, hcapital, rfl⟩ := List.mem_map.1 hd
      have hfacts := hsmall capital (hchars capital hcapital)
      exact ⟨hfacts.1, hfacts.2.1⟩
    · have hfacts := hsmall c (hchars c (by simp))
      simpa [hname] using hfacts.2.2 halpha
  · cases h

theorem clean_readEnd (style : Style) (cs : List Char) :
    (∀ q, (readEnd style cs).1 = some q → Clean (querySetOf style) q.toList) ∧
      ∀ f, (readEnd style cs).2 = some f → Clean fragmentSet f.toList := by
  have hquery : ∀ c ∈ percentDigits, querySetOf style c = false := by
    unfold querySetOf
    split_ifs <;> exact forall_of_all (by decide)
  constructor
  · intro q hq
    unfold readEnd at hq
    dsimp only at hq
    split at hq
    · cases hq
      rw [String.toList_ofList]
      exact clean_percentEncode hquery _
    · cases hq
  · intro f hf
    unfold readEnd at hf
    simp only [Option.map_eq_some_iff] at hf
    obtain ⟨fragment, -, rfl⟩ := hf
    rw [String.toList_ofList]
    exact clean_percentEncode (forall_of_all (by decide)) fragment

/-- The readers of a URL's beginning, as far as they differ: what each makes of the text after the
scheme. -/
inductive ReadAs (scheme : String) (cs : List Char) (u : Url) : Prop
  | file (host : Option Host) (rest : List Char) (hscheme : scheme = "file")
      (hlocal : host ≠ some (.name "localhost")) (hhost : ∀ h, host = some h → h.Settled true)
      (hu : u = finish "file" (some (fileAuthority host)) (readSegments (Style.of "file") []) rest)
  | slashes (a : Authority) (rest : List Char) (hscheme : scheme ≠ "file")
      (ha : a.Settled scheme)
      (hu : u = finish scheme (some a) (readRootedPath (Style.of scheme)) rest)
  | slash (rest : List Char) (hspecial : isSpecial scheme = false)
      (hu : u = finish scheme none (readSegments (Style.of scheme) []) rest)
  | plain (hspecial : isSpecial scheme = false) (hstart : cs.head? ≠ some '/')
      (hu : u = finish scheme none
        (fun cs => .plain (String.ofList (percentEncode controlSet cs))) cs)

theorem readAs_of_readAfterSlashes {scheme : String} {cs rest : List Char}
    (h : readAfterSlashes scheme rest = .ok u) (hscheme : scheme ≠ "file") :
    ReadAs scheme cs u := by
  obtain ⟨⟨a, left⟩, hread, hu⟩ := exists_of_bind_eq_ok h
  cases hu
  exact .slashes a left hscheme (settled_of_readAuthority hread) rfl

theorem readAs_of_readFile {cs : List Char} (h : readFile none cs = .ok u) :
    ReadAs "file" cs u := by
  have hnone : ∀ rest, Except.ok (finish "file" (some (fileAuthority none))
      (readSegments (Style.of "file") []) rest) = Except.ok (ε := UrlFault) u →
        ReadAs "file" cs u := by
    intro rest hrest
    cases hrest
    exact .file none rest rfl (by simp) (by simp) rfl
  unfold readFile at h
  dsimp only at h
  split at h
  · split_ifs at h
    · exact hnone _ h
    · exact hnone _ h
    · obtain ⟨host, hhost, hu⟩ := exists_of_bind_eq_ok h
      have hsettled := Host.settled_of_special hhost
      cases hu
      split_ifs with hlocal
      · exact .file none _ rfl (by simp) (by simp) rfl
      · refine .file (some host) _ rfl (by simpa using hlocal) ?_ rfl
        rintro _ ⟨⟩
        exact hsettled
    · exact hnone _ h
    · exact hnone _ h
    · exact hnone _ h
  · exact hnone _ h

theorem readAs_of_readWithScheme {scheme : String} {cs : List Char}
    (h : readWithScheme none scheme cs = .ok u) : ReadAs scheme cs u := by
  unfold readWithScheme at h
  dsimp only at h
  by_cases hfile : scheme = "file"
  · subst hfile
    exact readAs_of_readFile h
  · have hstyle : (Style.of scheme).file = false := by simpa [Style.of] using hfile
    rw [hstyle, if_neg Bool.false_ne_true] at h
    split_ifs at h with hspecial
    · exact readAs_of_readAfterSlashes h hfile
    · have hplain : isSpecial scheme = false := by simpa [Style.of] using hspecial
      split at h
      · exact readAs_of_readAfterSlashes h hfile
      · cases h
        exact .slash _ hplain rfl
      · next hdouble hsingle =>
        cases h
        refine .plain hplain ?_ rfl
        intro hhead
        obtain ⟨rest, rfl⟩ : ∃ rest, cs = '/' :: rest := by
          cases cs with
          | nil => cases hhead
          | cons c rest =>
            cases hhead
            exact ⟨rest, rfl⟩
        exact hsingle rest rfl

theorem settledPlain_encoded {cs : List Char} (hspecial : style.special = false)
    (hinside : ∀ c ∈ cs, endsPath c = false) (hstart : cs.head? ≠ some '/') :
    SettledPlain style (percentEncode controlSet cs) := by
  constructor
  · exact hspecial
  · exact clean_percentEncode (forall_of_all (by decide)) cs
  · exact forall_percentEncode (forall_of_all (by decide)) fun c hc _ _ => hinside c hc
  · intro hhead
    obtain ⟨ds, hds⟩ := List.head?_eq_some_iff.1 hhead
    obtain ⟨rest, rfl, -⟩ := percentEncode_eq_cons hds (by decide)
    exact hstart rfl

theorem settled_finish {scheme : String} {a : Option Authority} {path : List Char → UrlPath}
    {cs : List Char} (hscheme : SettledScheme scheme.toList)
    (ha : ∀ b, a = some b → if scheme = "file" then
      b = fileAuthority b.host ∧ b.host ≠ some (.name "localhost") ∧
        ∀ h, b.host = some h → h.Settled true
      else b.Settled scheme)
    (hspecial : isSpecial scheme → a ≠ none)
    (hsegments : ∀ parts, path (cs.takeWhile fun c => !endsPath c) = .segments parts →
      SettledSegments (Style.of scheme) a.isSome parts)
    (hplain : ∀ s, path (cs.takeWhile fun c => !endsPath c) = .plain s →
      a = none ∧ SettledPlain (Style.of scheme) s.toList) :
    (finish scheme a path cs).Settled := by
  have hend := clean_readEnd (Style.of scheme)
    (cs.drop (cs.takeWhile fun c => !endsPath c).length)
  exact ⟨hscheme, ha, hspecial, hsegments, hplain, hend.1, hend.2⟩

theorem ReadAs.settled {scheme : String} {cs : List Char} (h : ReadAs scheme cs u)
    (hscheme : SettledScheme scheme.toList) : u.Settled := by
  cases h with
  | file host rest heq hlocal hhost hu =>
    subst heq hu
    apply settled_finish hscheme
    · rintro b ⟨⟩
      rw [if_pos rfl]
      exact ⟨rfl, hlocal, hhost⟩
    · simp
    · exact fun parts hparts => settled_of_readSegments hparts
    · rintro s ⟨⟩
  | slashes a rest hfile ha hu =>
    subst hu
    have hstyle : (Style.of scheme).file = false := by simpa [Style.of] using hfile
    apply settled_finish hscheme
    · rintro b ⟨⟩
      rwa [if_neg hfile]
    · simp
    · exact fun parts hparts => settled_of_readRootedPath hparts hstyle
    · intro s hs
      obtain ⟨parts, hparts⟩ := exists_segments_of_readRootedPath (Style.of scheme)
        (rest.takeWhile fun c => !endsPath c)
      rw [hparts] at hs
      cases hs
  | slash rest hspecial hu =>
    subst hu
    apply settled_finish hscheme
    · rintro b ⟨⟩
    · simp [hspecial]
    · exact fun parts hparts => settled_of_readSegments hparts
    · rintro s ⟨⟩
  | plain hspecial hstart hu =>
    subst hu
    apply settled_finish hscheme
    · rintro b ⟨⟩
    · simp [hspecial]
    · rintro parts ⟨⟩
    · rintro s ⟨⟩
      refine ⟨rfl, ?_⟩
      rw [String.toList_ofList]
      apply settledPlain_encoded hspecial
      · intro c hc
        simpa using List.all_eq_true.1 List.all_takeWhile c hc
      · cases cs with
        | nil => simp
        | cons c cs =>
          rw [List.takeWhile_cons]
          split_ifs
          · exact hstart
          · simp

/-! ## The end of the text -/

theorem getLast?_significant {s : String} {c : Char} (h : (significant s).getLast? = some c) :
    32 < c.toNat := by
  unfold significant Text.stripEnds at h
  generalize s.toList.dropWhile (fun c => decide (c.toNat ≤ 32)) = front at h
  cases hback : front.reverse.dropWhile fun c => decide (c.toNat ≤ 32) with
  | nil =>
    rw [hback] at h
    cases h
  | cons d ds =>
    have hd : 32 < d.toNat := by
      have hnot := List.head?_dropWhile_not (fun c : Char => decide (c.toNat ≤ 32)) front.reverse
      rw [hback] at hnot
      simpa using hnot
    have hkeep : (d != '\t' && d != '\n' && d != '\r') = true := by
      simp only [Bool.and_eq_true, bne_iff_ne]
      refine ⟨⟨?_, ?_⟩, ?_⟩ <;> rintro rfl <;> exact absurd hd (by decide)
    have hone : [d].filter (fun c => c != '\t' && c != '\n' && c != '\r') = [d] := by
      simp only [List.filter_cons, hkeep, if_true, List.filter_nil]
    rw [hback, List.reverse_cons, List.filter_append, hone, List.getLast?_concat] at h
    cases h
    exact hd

theorem getLast?_percentEncode {cs : List Char}
    (h : (percentEncode inSet cs).getLast? = some ' ') : cs.getLast? = some ' ' := by
  rcases List.eq_nil_or_concat cs with rfl | ⟨init, c, rfl⟩
  · cases h
  · have happend : percentEncode inSet (init ++ [c]) =
        percentEncode inSet init ++ percentEncode inSet [c] := List.flatMap_append
    rw [List.concat_eq_append, happend,
      List.getLast?_append_of_ne_nil _ (percentEncode_ne_nil (by simp))] at h
    have hspace : ∀ d ∈ percentDigits, d ≠ ' ' := forall_of_all (by decide)
    have hlast : ∀ d ∈ percentEncode inSet [c], d = ' ' → c = ' ' := by
      apply forall_percentEncode
      · exact fun d hd heq => absurd heq (hspace d hd)
      · simp
    rw [List.concat_eq_append, List.getLast?_concat, hlast ' ' (List.mem_of_getLast? h) rfl]

theorem readEnd_ne_none {c : Char} (hc : endsPath c) (rest : List Char)
    (hquery : (readEnd style (c :: rest)).1 = none) : (readEnd style (c :: rest)).2 ≠ none := by
  simp only [endsPath, Bool.or_eq_true, beq_iff_eq] at hc
  rcases hc with rfl | rfl
  · simp [readEnd, cutAt] at hquery
  · simp [readEnd, cutAt]

theorem takeWhile_of_readEnd {cs : List Char}
    (hquery : (readEnd style (cs.drop (cs.takeWhile fun c => !endsPath c).length)).1 = none)
    (hfragment : (readEnd style (cs.drop (cs.takeWhile fun c => !endsPath c).length)).2 = none) :
    cs.takeWhile (fun c => !endsPath c) = cs := by
  rw [drop_length_takeWhile] at hquery hfragment
  cases hrest : cs.dropWhile fun c => !endsPath c with
  | nil =>
    have hwhole := List.takeWhile_append_dropWhile (p := fun c => !endsPath c) (l := cs)
    rwa [hrest, List.append_nil] at hwhole
  | cons c rest =>
    have hc := List.head?_dropWhile_not (fun c => !endsPath c) cs
    rw [hrest] at hc hquery hfragment
    exact absurd hfragment (readEnd_ne_none (by simpa using hc) rest hquery)

theorem ReadAs.endsVisibly {scheme : String} {cs : List Char} (h : ReadAs scheme cs u)
    (hlast : cs.getLast? ≠ some ' ') : u.EndsVisibly := by
  intro s hs hquery hfragment
  cases h with
  | file host rest heq hlocal hhost hu =>
    subst hu
    cases hs
  | slashes a rest hfile ha hu =>
    subst hu
    obtain ⟨parts, hparts⟩ := exists_segments_of_readRootedPath (Style.of scheme)
      (rest.takeWhile fun c => !endsPath c)
    have hpath := hparts.symm.trans hs
    cases hpath
  | slash rest hspecial hu =>
    subst hu
    cases hs
  | plain hspecial hstart hu =>
    subst hu
    obtain rfl : String.ofList (percentEncode controlSet (cs.takeWhile fun c => !endsPath c)) = s :=
      UrlPath.plain.inj hs
    rw [takeWhile_of_readEnd hquery hfragment, String.toList_ofList]
    exact fun hspace => hlast (getLast?_percentEncode hspace)

/-- A URL that is read has settled parts, and its text ends in a character that counts. -/
theorem settled_of_parse {s : String} (h : Url.parse s = .ok u) : u.Settled ∧ u.EndsVisibly := by
  unfold Url.parse read at h
  dsimp only at h
  cases hscheme : readScheme? (significant s) with
  | none =>
    rw [hscheme] at h
    cases h
  | some found =>
    obtain ⟨scheme, rest⟩ := found
    rw [hscheme] at h
    have hread := readAs_of_readWithScheme h
    refine ⟨hread.settled (settled_of_readScheme? hscheme), hread.endsVisibly ?_⟩
    intro hlast
    obtain ⟨name, hname⟩ := exists_of_readScheme? hscheme
    have hsignificant : (significant s).getLast? = some ' ' := by
      rw [hname, List.getLast?_append_of_ne_nil _ (by simp), List.getLast?_cons, hlast]
      rfl
    exact absurd (getLast?_significant hsignificant) (by decide)

/-- Every URL that is read is read back from its text, a file URL with a host apart whose path
begins with the letter of a drive and a bar. -/
theorem parse_text_of_parse {s : String} (h : Url.parse s = .ok u) (hbar : ¬u.BarBehindHost) :
    Url.parse u.text = .ok u :=
  parse_text (settled_of_parse h).1 hbar (settled_of_parse h).2

end Url

end SignIn
