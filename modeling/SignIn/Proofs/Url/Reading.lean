import SignIn.Proofs.Url.Authority

/-!
# URLs are read back as they were written

A URL whose parts need no more encoding is read back from its text. Its characters all count, its
scheme ends at the first colon, its authority at the path, its path at the first `?` or `#`; the
segments of the path are worked in one by one and none of them is a dot segment.
-/

namespace SignIn

open Text Url

/-- A segment that stays as it is when it is read. -/
structure SettledSegment (style : Style) (part : String) : Prop where
  clean : Clean pathSet part.toList
  whole : ∀ c ∈ part.toList, style.isSlash c = false
  notSingle : isSingleDot part.toList = false
  notDouble : isDoubleDot part.toList = false

structure SettledSegments (style : Style) (rooted : Bool) (parts : List String) : Prop where
  each : ∀ part ∈ parts, SettledSegment style part
  ne_nil : style.special ∨ rooted = false → parts ≠ []
  file : style.file → parts = [""] ∨ parts.head? ≠ some ""

structure SettledPlain (style : Style) (cs : List Char) : Prop where
  special : style.special = false
  clean : Clean controlSet cs
  inside : ∀ c ∈ cs, endsPath c = false
  start : cs.head? ≠ some '/'

def querySetOf (style : Style) : Char → Bool := if style.special then specialQuerySet else querySet

def isSchemeChar (c : Char) : Bool := c.isAlphanum || c == '+' || c == '-' || c == '.'

structure SettledScheme (cs : List Char) : Prop where
  chars : ∀ c ∈ cs, isSchemeChar c = true ∧ c.toLower = c
  start : cs.head?.any Char.isAlpha

/-- A URL whose parts stay as they are when they are read. -/
structure Url.Settled (u : Url) : Prop where
  scheme : SettledScheme u.scheme.toList
  authority : ∀ a, u.authority = some a → if u.scheme = "file" then
      a = fileAuthority a.host ∧ a.host ≠ some (.name "localhost") ∧
        ∀ h, a.host = some h → h.Settled true
    else a.Settled u.scheme
  special : isSpecial u.scheme → u.authority ≠ none
  segments : ∀ parts, u.path = .segments parts →
    SettledSegments (Style.of u.scheme) u.authority.isSome parts
  plain : ∀ s, u.path = .plain s → u.authority = none ∧ SettledPlain (Style.of u.scheme) s.toList
  query : ∀ q, u.query = some q → Clean (querySetOf (Style.of u.scheme)) q.toList
  fragment : ∀ f, u.fragment = some f → Clean fragmentSet f.toList

namespace Url

/-! ## Segments -/

variable {style : Style}

/-- No segment in front would be taken for the letter of a drive and be rewritten. -/
def NoBar (parts : List String) : Prop :=
  ∀ part, parts.head? = some part → ∀ c, c.isAlpha → part.toList ≠ [c, '|']

/-- Segments are worked in one by one behind those before them. -/
theorem pushSegments_settled {before parts : List String}
    (h : ∀ part ∈ parts, SettledSegment style part)
    (hdrive : style.file → before = [] → NoBar parts) :
    pushSegments style before (parts.map String.toList) = before ++ parts := by
  induction parts generalizing before with
  | nil => simp [pushSegments]
  | cons part parts ih =>
    have hpart := h part (by simp)
    have hself : (if style.file && before.isEmpty && isDrive part.toList then
        [String.ofList (part.toList.take 1 ++ [':'])]
        else before ++ [String.ofList (percentEncode pathSet part.toList)]) = before ++ [part] := by
      rw [percentEncode_of_clean hpart.clean, String.ofList_toList]
      split_ifs with hcase
      · simp only [Bool.and_eq_true, List.isEmpty_iff] at hcase
        obtain ⟨⟨hfile, rfl⟩, hletter⟩ := hcase
        unfold isDrive at hletter
        split at hletter
        · next c d hcd =>
          simp only [Bool.and_eq_true, Bool.or_eq_true, beq_iff_eq] at hletter
          obtain ⟨halpha, rfl | rfl⟩ := hletter
          · have hpart : part = String.ofList [c, ':'] := by rw [← hcd, String.ofList_toList]
            rw [List.nil_append, hcd, hpart]
            rfl
          · exact absurd hcd (hdrive hfile rfl part rfl c halpha)
        · cases hletter
      · rfl
    rw [List.map_cons, pushSegments]
    simp only [hpart.notDouble, hpart.notSingle, Bool.false_eq_true, if_false]
    rw [hself, ih fun p hp => h p (List.mem_cons_of_mem part hp)]
    · simp
    · intro _ hempty
      simp at hempty

def segmentChars (parts : List String) : List Char := ['/'].intercalate (parts.map String.toList)

theorem toList_segments_text {parts : List String} (h : parts ≠ []) :
    (UrlPath.segments parts).text.toList = '/' :: segmentChars parts := by
  unfold segmentChars UrlPath.text
  induction parts with
  | nil => exact absurd rfl h
  | cons part parts ih =>
    cases parts with
    | nil => simp
    | cons next parts =>
      have hrest := ih (by simp)
      simp only [String.toList_join, List.map_cons, List.flatMap_cons, String.toList_append,
        List.intercalate_cons_cons] at hrest ⊢
      rw [hrest]
      simp

theorem splitWhere_segmentChars {parts : List String} (hne : parts ≠ [])
    (h : ∀ part ∈ parts, SettledSegment style part) :
    splitWhere style.isSlash (segmentChars parts) = parts.map String.toList := by
  apply splitWhere_intercalate
  · simp [Style.isSlash]
  · simpa using hne
  · intro cs hcs
    obtain ⟨part, hpart, rfl⟩ := List.mem_map.1 hcs
    exact (h part hpart).whole

theorem fileSegments_settled {parts : List String} (hne : parts ≠ [])
    (h : parts = [""] ∨ parts.head? ≠ some "") : fileSegments parts = parts := by
  rcases h with rfl | hhead
  · rfl
  · obtain ⟨part, rest, rfl⟩ := List.exists_cons_of_ne_nil hne
    have hpart : part ≠ "" := by simpa using hhead
    simp [fileSegments, hpart]

variable {rooted : Bool} {parts : List String}

theorem readSegments_settled (h : SettledSegments style rooted parts) (hne : parts ≠ [])
    (hdrive : style.file → NoBar parts) :
    readSegments style [] (segmentChars parts) = .segments parts := by
  have hpush : pushSegments style [] (parts.map String.toList) = parts :=
    pushSegments_settled h.each fun hfile _ => hdrive hfile
  unfold readSegments
  dsimp only
  rw [splitWhere_segmentChars hne h.each, hpush]
  split_ifs with hfile
  · rw [fileSegments_settled hne (h.file hfile)]
  · rfl

theorem readSegments_slash (h : SettledSegments style rooted parts) (hne : parts ≠ [])
    (hfile : style.file) :
    readSegments style [] ('/' :: segmentChars parts) = .segments parts := by
  have hslash : style.isSlash '/' := by simp [Style.isSlash]
  have hpush : pushSegments style [""] (parts.map String.toList) = "" :: parts :=
    pushSegments_settled h.each fun _ hempty => by cases hempty
  have hfirst : pushSegments style [] ([] :: parts.map String.toList) =
      pushSegments style [""] (parts.map String.toList) := by
    rw [pushSegments]
    simp [isDoubleDot, isSingleDot, isDrive, percentEncode]
  have hdrop : fileSegments ("" :: parts) = fileSegments parts := by simp [fileSegments]
  unfold readSegments
  dsimp only
  rw [splitWhere_cons_of_pos hslash, splitWhere_segmentChars hne h.each, hfirst, hpush,
    if_pos hfile, hdrop, fileSegments_settled hne (h.file hfile)]

theorem readSegments_dot (h : SettledSegments style rooted parts) (hne : parts ≠ [])
    (hfile : style.file = false) :
    readSegments style [] ('.' :: '/' :: segmentChars parts) = .segments parts := by
  have hslash : style.isSlash '/' := by simp [Style.isSlash]
  have hdot : style.isSlash '.' = false := by simp [Style.isSlash]
  have hpush : pushSegments style [] (parts.map String.toList) = parts :=
    pushSegments_settled h.each fun hpos => by simp [hfile] at hpos
  have hfirst : pushSegments style [] (['.'] :: parts.map String.toList) =
      pushSegments style [] (parts.map String.toList) := by
    have hsegs : (parts.map String.toList).isEmpty = false := by simpa using hne
    rw [pushSegments, hsegs]
    rfl
  unfold readSegments
  dsimp only
  rw [splitWhere_cons_of_neg hdot (splitWhere_cons_of_pos hslash _),
    splitWhere_segmentChars hne h.each, hfirst, hpush, hfile]
  rfl

/-! ## Query and fragment -/

def ending (u : Url) : List Char := (after "?" u.query).toList ++ (after "#" u.fragment).toList

theorem endsPath_head_ending (u : Url) : u.ending.head?.all endsPath := by
  unfold ending after
  cases u.query with
  | some q => simp [endsPath]
  | none =>
    cases u.fragment with
    | some f => simp [endsPath]
    | none => simp

theorem ending_eq_nil_iff {u : Url} : u.ending = [] ↔ u.query = none ∧ u.fragment = none := by
  unfold ending after
  cases u.query <;> cases u.fragment <;> simp

theorem querySet_of_querySetOf {c : Char} (h : querySetOf style c = false) :
    querySet c = false := by
  unfold querySetOf at h
  split_ifs at h
  · exact querySet_of_specialQuerySet h
  · exact h

theorem readEnd_ending {u : Url}
    (hquery : ∀ q, u.query = some q → Clean (querySetOf style) q.toList)
    (hfragment : ∀ f, u.fragment = some f → Clean fragmentSet f.toList) :
    readEnd style u.ending = (u.query, u.fragment) := by
  have hcut : cutAt (· == '#') u.ending =
      ((after "?" u.query).toList, u.fragment.map String.toList) := by
    have hquestion : ∀ c ∈ (after "?" u.query).toList, (c == '#') = false := by
      intro c hc
      unfold after at hc
      cases hq : u.query with
      | none => simp [hq] at hc
      | some q =>
        have hclean : Clean querySet q.toList := (hquery q hq).mono fun c => querySet_of_querySetOf
        simp only [hq, Option.map_some, Option.getD_some, String.toList_append,
          List.mem_append] at hc
        rcases hc with hc | hc
        · obtain rfl : c = '?' := by simpa using hc
          rfl
        · simpa using hclean.ne (d := '#') rfl c hc
    unfold ending
    cases hf : u.fragment with
    | none => simpa [after] using cutAt_of_forall hquestion
    | some f => simpa [after] using cutAt_append_cons hquestion rfl f.toList
  have hfragment' : (u.fragment.map String.toList).map (fun f =>
      String.ofList (percentEncode fragmentSet f)) = u.fragment := by
    cases hf : u.fragment with
    | none => rfl
    | some f => simp [percentEncode_of_clean (hfragment f hf)]
  unfold readEnd
  rw [hcut]
  dsimp only
  rw [hfragment']
  cases hq : u.query with
  | none => rfl
  | some q =>
    have hself : percentEncode (querySetOf style) q.toList = q.toList :=
      percentEncode_of_clean (hquery q hq)
    unfold querySetOf at hself
    simp [after, hself]

theorem finish_ending {u : Url} (h : u.Settled) {cs : List Char} {path : List Char → UrlPath}
    (hcs : ∀ c ∈ cs, endsPath c = false) (hpath : path cs = u.path) :
    finish u.scheme u.authority path (cs ++ u.ending) = u := by
  have htake : (cs ++ u.ending).takeWhile (fun c => !endsPath c) = cs := by
    apply takeWhile_append_of_head
    · intro c hc
      rw [hcs c hc]
      rfl
    · simpa using endsPath_head_ending u
  unfold finish
  simp only [htake, List.drop_left, readEnd_ending h.query h.fragment, hpath]

/-! ## What follows the scheme -/

/-- The characters between the colon of the scheme and the path. -/
def front (u : Url) : List Char :=
  match u.authority with
  | some a => '/' :: '/' :: a.text.toList
  | none => if u.path.startsDouble then ['/', '.'] else []

theorem endsPath_of_clean {cs : List Char} (h : Clean pathSet cs) :
    ∀ c ∈ cs, endsPath c = false := by
  intro c hc
  simp [endsPath, h.ne (d := '?') rfl c hc, h.ne (d := '#') rfl c hc]

theorem endsPath_of_mem_segmentChars (h : ∀ part ∈ parts, SettledSegment style part) :
    ∀ c ∈ segmentChars parts, endsPath c = false := by
  intro c hc
  rcases mem_of_mem_intercalate hc with rfl | ⟨cs, hcs, hc⟩
  · rfl
  · obtain ⟨part, hpart, rfl⟩ := List.mem_map.1 hcs
    exact endsPath_of_clean (h part hpart).clean c hc

theorem endsPath_of_mem_segments_text (h : ∀ part ∈ parts, SettledSegment style part) :
    ∀ c ∈ (UrlPath.segments parts).text.toList, endsPath c = false := by
  by_cases hne : parts = []
  · subst hne
    simp [UrlPath.text, String.join]
  · rw [toList_segments_text hne]
    exact List.forall_mem_cons.2 ⟨rfl, endsPath_of_mem_segmentChars h⟩

theorem readRootedPath_settled (h : SettledSegments style true parts)
    (hfile : style.file = false) :
    readRootedPath style (UrlPath.segments parts).text.toList = .segments parts := by
  by_cases hne : parts = []
  · subst hne
    have hspecial : ¬style.special = true := fun hspecial => h.ne_nil (.inl hspecial) rfl
    simp [UrlPath.text, String.join, readRootedPath, hspecial]
  · rw [toList_segments_text hne, readRootedPath, if_pos (by simp [Style.isSlash])]
    exact readSegments_settled h hne fun hpos => by simp [hfile] at hpos

theorem endsAuthority_head_path (parts : List String) (u : Url) :
    ((UrlPath.segments parts).text.toList ++ u.ending).head?.all style.endsAuthority := by
  by_cases hne : parts = []
  · subst hne
    have hending := endsPath_head_ending u
    simp only [UrlPath.text, List.map_nil, String.join, List.foldl_nil, String.toList_empty,
      List.nil_append]
    cases hhead : u.ending.head? with
    | none => rfl
    | some c =>
      have hc : c = '?' ∨ c = '#' := by simpa [hhead, endsPath] using hending
      simp only [Option.all_some, Style.endsAuthority]
      rcases hc with rfl | rfl <;> simp
  · rw [toList_segments_text hne]
    simp [Style.endsAuthority, Style.isSlash]

theorem readAfterSlashes_text {u : Url} {a : Authority} (h : u.Settled)
    (hauthority : u.authority = some a) (hfile : u.scheme ≠ "file") :
    readAfterSlashes u.scheme (a.text.toList ++ (u.path.text.toList ++ u.ending)) = .ok u := by
  have hsettled : a.Settled u.scheme := by simpa [hfile] using h.authority a hauthority
  obtain ⟨parts, hparts⟩ : ∃ parts, u.path = .segments parts := by
    cases hpath : u.path with
    | segments parts => exact ⟨parts, rfl⟩
    | plain s => simp [(h.plain s hpath).1] at hauthority
  have hsegments := h.segments parts hparts
  rw [hauthority] at hsegments
  have hends : (u.path.text.toList ++ u.ending).head?.all
      (Style.of u.scheme).endsAuthority := by
    rw [hparts]
    exact endsAuthority_head_path parts u
  have hread : readRootedPath (Style.of u.scheme) u.path.text.toList = u.path := by
    rw [hparts]
    exact readRootedPath_settled hsegments (by simpa [Style.of] using hfile)
  have hpath : ∀ c ∈ u.path.text.toList, endsPath c = false := by
    rw [hparts]
    exact endsPath_of_mem_segments_text hsegments.each
  have hfinish := finish_ending h hpath hread
  rw [hauthority] at hfinish
  unfold readAfterSlashes
  rw [readAuthority_text hsettled hends]
  simp [bind, Except.bind, pure, Except.pure, hfinish]

theorem isDrive_host {special : Bool} {h : Host} (hh : h.Settled special) :
    isDrive h.text.toList = false := by
  unfold isDrive
  split
  · next c d hcd =>
    rcases hh.colons with ⟨inside, htext, -⟩ | hplain
    · rw [htext] at hcd
      have hd : d = ']' := by
        have hlast := congrArg List.getLast? hcd
        rw [← List.cons_append, List.getLast?_concat] at hlast
        simpa using hlast.symm
      simp [hd]
    · have hd := hplain d (by simp [hcd])
      simp only [List.mem_cons, not_or] at hd
      simp [hd.1, hd.2.2.2.1]
  · rfl

theorem readFile_text {u : Url} {host : Option Host} (h : u.Settled) (hscheme : u.scheme = "file")
    (hauthority : u.authority = some (fileAuthority host))
    (hbar : host ≠ none → ∀ parts, u.path = .segments parts → NoBar parts) :
    readFile none ('/' :: '/' :: ((fileAuthority host).text.toList ++
      (u.path.text.toList ++ u.ending))) = .ok u := by
  obtain ⟨parts, hparts⟩ : ∃ parts, u.path = .segments parts := by
    cases hpath : u.path with
    | segments parts => exact ⟨parts, rfl⟩
    | plain s => simp [(h.plain s hpath).1] at hauthority
  have hstyle : (Style.of u.scheme) = Style.of "file" := by rw [hscheme]
  have hsegments := h.segments parts hparts
  rw [hstyle] at hsegments
  have hne : parts ≠ [] := hsegments.ne_nil (.inl rfl)
  have hpath : u.path.text.toList = '/' :: segmentChars parts := by
    rw [hparts, toList_segments_text hne]
  have hends := endsPath_of_mem_segmentChars hsegments.each
  have hfresh : ∀ cs, (∀ c ∈ cs, endsPath c = false) →
      readSegments (Style.of "file") [] cs = .segments parts →
      finish "file" (some (fileAuthority host)) (readSegments (Style.of "file") [])
        (cs ++ u.ending) = u := by
    intro cs hcs hread
    have hfinish := finish_ending h hcs (hread.trans hparts.symm)
    rwa [hscheme, hauthority] at hfinish
  rw [hpath]
  cases host with
  | none =>
    have hempty : (fileAuthority none).text.toList = [] := by
      simp [fileAuthority, Authority.text, Authority.userinfo, Authority.hostText]
    have hwhole := hfresh ('/' :: segmentChars parts) (List.forall_mem_cons.2 ⟨rfl, hends⟩)
      (readSegments_slash hsegments hne rfl)
    have hnone : ('/' :: segmentChars parts ++ u.ending).takeWhile
        (fun c => !(Style.of "file").endsAuthority c) = [] := by
      simp [Style.endsAuthority, Style.isSlash]
    rw [hempty, List.nil_append]
    simp only [readFile]
    rw [if_pos (by decide), hnone]
    simpa [isDrive, pure, Except.pure] using hwhole
  | some host =>
    obtain ⟨-, hlocal, hsettled⟩ := (if_pos hscheme).mp (h.authority _ hauthority)
    have hhost := hsettled host rfl
    have htext : (fileAuthority (some host)).text.toList = host.text.toList := by
      simp [fileAuthority, Authority.text, Authority.userinfo, Authority.hostText]
    have hwhole := hfresh (segmentChars parts) hends
      (readSegments_settled hsegments hne fun _ => hbar (by simp) parts hparts)
    have htake : (host.text.toList ++ ('/' :: segmentChars parts ++ u.ending)).takeWhile
        (fun c => !(Style.of "file").endsAuthority c) = host.text.toList := by
      apply takeWhile_append_of_head
      · intro c hc
        simpa using endsAuthority_of_partsAuthority (.inr (hhost.chars c hc))
      · simp [Style.endsAuthority, Style.isSlash]
    obtain ⟨_, hspecial, heq⟩ := Host.read_special_eq_ok_iff.1 hhost.again
    cases heq
    have hlocal' : host ≠ .name "localhost" := fun heq => hlocal (congrArg some heq)
    rw [htext]
    simp only [readFile]
    rw [if_pos (by decide), htake, isDrive_host hhost, hspecial, List.drop_left]
    simpa [hhost.ne_nil, hlocal', anySlash, bind, Except.bind, pure, Except.pure] using hwhole

theorem head_ending_ne_slash (u : Url) : u.ending.head? ≠ some '/' := by
  intro hhead
  have hends := endsPath_head_ending u
  rw [hhead] at hends
  cases hends

/-- Segments that start with no double slash are not taken for an authority. -/
theorem head_rest_ne_slash (h : SettledSegments style rooted parts)
    (hdouble : ¬(UrlPath.segments parts).startsDouble = true) (u : Url) :
    (segmentChars parts ++ u.ending).head? ≠ some '/' := by
  cases parts with
  | nil => exact head_ending_ne_slash u
  | cons part more =>
    cases hpart : part.toList with
    | nil =>
      obtain rfl : part = "" := String.toList_eq_nil_iff.1 hpart
      cases more with
      | nil => simpa [segmentChars] using head_ending_ne_slash u
      | cons next more => exact absurd rfl hdouble
    | cons c cs =>
      have hc : c ≠ '/' := by
        rintro rfl
        have hslash := (h.each part (by simp)).whole '/' (by simp [hpart])
        simp [Style.isSlash] at hslash
      have hfirst : (segmentChars (part :: more)).head? = some c := by
        unfold segmentChars
        cases more with
        | nil => simp [hpart]
        | cons next more => simp [hpart, List.intercalate_cons_cons]
      rw [List.head?_append, hfirst]
      simpa using hc

theorem head_plain_ne_slash {cs : List Char} (h : SettledPlain style cs) (u : Url) :
    (cs ++ u.ending).head? ≠ some '/' := by
  cases cs with
  | nil => exact head_ending_ne_slash u
  | cons c cs => exact h.start

theorem readWithScheme_rootless {u : Url} (h : u.Settled) (hauthority : u.authority = none) :
    readWithScheme none u.scheme (u.front ++ (u.path.text.toList ++ u.ending)) = .ok u := by
  have hspecial : (Style.of u.scheme).special = false := by
    rw [← Bool.not_eq_true]
    exact fun hspecial => h.special hspecial hauthority
  have hfile : (Style.of u.scheme).file = false := by
    have hne : u.scheme ≠ "file" := by
      intro heq
      rw [heq] at hspecial
      cases hspecial
    simpa [Style.of] using hne
  have hfinish : ∀ path cs, (∀ c ∈ cs, endsPath c = false) → path cs = u.path →
      finish u.scheme none path (cs ++ u.ending) = u := by
    intro path cs hcs hpath
    have hwhole := finish_ending h hcs hpath
    rwa [hauthority] at hwhole
  unfold readWithScheme front
  rw [hauthority]
  simp only [hspecial, hfile, Bool.false_eq_true, if_false]
  cases hpath : u.path with
  | segments parts =>
    have hsegments := h.segments parts hpath
    rw [hauthority] at hsegments
    have hne : parts ≠ [] := hsegments.ne_nil (.inr rfl)
    have hends := endsPath_of_mem_segmentChars hsegments.each
    rw [toList_segments_text hne]
    split_ifs with hdouble
    · have hread := (readSegments_dot hsegments hne hfile).trans hpath.symm
      have hdot : ∀ c ∈ '.' :: '/' :: segmentChars parts, endsPath c = false :=
        List.forall_mem_cons.2 ⟨rfl, List.forall_mem_cons.2 ⟨rfl, hends⟩⟩
      exact congrArg Except.ok (hfinish _ _ hdot hread)
    · have hread := (readSegments_settled hsegments hne fun hpos => by
        simp [hfile] at hpos).trans hpath.symm
      have hhead := head_rest_ne_slash hsegments hdouble u
      rw [List.nil_append]
      split
      · next rest heq =>
        rw [List.cons_append, List.cons.injEq] at heq
        exact absurd (by rw [heq.2]; rfl) hhead
      · next rest _ heq =>
        rw [List.cons_append, List.cons.injEq] at heq
        rw [← heq.2]
        exact congrArg Except.ok (hfinish _ _ hends hread)
      · next hnone =>
        exact absurd rfl (hnone _)
  | plain s =>
    have hplain := (h.plain s hpath).2
    have hhead := head_plain_ne_slash hplain u
    have hread : UrlPath.plain (String.ofList (percentEncode controlSet s.toList)) = u.path := by
      rw [percentEncode_of_clean hplain.clean, String.ofList_toList, hpath]
    have hwhole := hfinish (fun cs => .plain (String.ofList (percentEncode controlSet cs))) _
      hplain.inside hread
    have htext : (UrlPath.plain s).text = s := rfl
    have hsingle : (UrlPath.plain s).startsDouble = false := rfl
    rw [hsingle, if_neg Bool.false_ne_true, List.nil_append, htext]
    split
    · next heq => exact absurd (by rw [heq]; rfl) hhead
    · next heq => exact absurd (by rw [heq]; rfl) hhead
    · exact congrArg Except.ok hwhole

/-! ## Whole texts -/

theorem toList_text (u : Url) :
    u.text.toList = u.scheme.toList ++ ':' :: (u.front ++ (u.path.text.toList ++ u.ending)) := by
  unfold text front ending
  cases u.authority with
  | some a => simp
  | none =>
    dsimp only
    split_ifs <;> simp

theorem toNat_lt_of_isAlphanum {c : Char} (h : c.isAlphanum) : c.toNat < 128 := by
  rcases Bool.or_eq_true_iff.1 h with hletter | hdigit
  · rcases Bool.or_eq_true_iff.1 hletter with hupper | hlower
    · have hle : c.toNat ≤ 90 := (of_decide_eq_true hupper).2
      omega
    · have hle : c.toNat ≤ 122 := of_decide_eq_true (Bool.and_eq_true_iff.1 hlower).2
      omega
  · have hle : c.toNat ≤ 57 := of_decide_eq_true (Bool.and_eq_true_iff.1 hdigit).2
    omega

theorem toNat_lt_of_isSchemeChar {c : Char} (h : isSchemeChar c) : c.toNat < 128 := by
  simp only [isSchemeChar, Bool.or_eq_true, beq_iff_eq] at h
  rcases h with ((h | rfl) | rfl) | rfl
  · exact toNat_lt_of_isAlphanum h
  all_goals decide

theorem isSchemeChar_facts {c : Char} (h : isSchemeChar c) :
    32 < c.toNat ∧ controlSet c = false ∧ c ≠ ':' :=
  forall_below (P := fun c => isSchemeChar c → 32 < c.toNat ∧ controlSet c = false ∧ c ≠ ':')
    (by decide) (toNat_lt_of_isSchemeChar h) h

theorem readScheme?_text {scheme : String} (h : SettledScheme scheme.toList) (rest : List Char) :
    readScheme? (scheme.toList ++ ':' :: rest) = some (scheme, rest) := by
  have hname : (scheme.toList ++ ':' :: rest).takeWhile (fun c => c.isAlphanum || c == '+' ||
      c == '-' || c == '.') = scheme.toList := by
    apply takeWhile_append_of_head
    · exact fun c hc => (h.chars c hc).1
    · rfl
  have hlower : scheme.toList.map Char.toLower = scheme.toList := by
    conv_rhs => rw [← List.map_id scheme.toList]
    exact List.map_congr_left fun c hc => (h.chars c hc).2
  obtain ⟨c, cs, hcs⟩ : ∃ c cs, scheme.toList = c :: cs := by
    cases hscheme : scheme.toList with
    | nil =>
      have hstart := h.start
      simp [hscheme] at hstart
    | cons c cs => exact ⟨c, cs, rfl⟩
  have halpha : c.isAlpha := by
    have hstart := h.start
    simpa [hcs] using hstart
  have hself : String.ofList ((c :: cs).map Char.toLower) = scheme := by
    rw [← hcs, hlower, String.ofList_toList]
  unfold readScheme?
  dsimp only
  rw [hname, List.drop_left, hcs]
  simp only [halpha, if_true, hself]

theorem significant_of {s : String} (h : ∀ c ∈ s.toList, controlSet c = false)
    (hfirst : ∀ c, s.toList.head? = some c → 32 < c.toNat)
    (hlast : ∀ c, s.toList.getLast? = some c → 32 < c.toNat) : significant s = s.toList := by
  have hends : Text.stripEnds (fun c => decide (c.toNat ≤ 32)) s.toList = s.toList := by
    apply stripEnds_of_ends
    · intro c hc
      simpa using hfirst c hc
    · intro c hc
      simpa using hlast c hc
  unfold significant
  rw [hends, List.filter_eq_self]
  intro c hc
  have hcontrol := h c hc
  simp only [Bool.and_eq_true, bne_iff_ne]
  refine ⟨⟨?_, ?_⟩, ?_⟩ <;> rintro rfl <;> cases hcontrol

/-- A file URL with a host whose path begins with the letter of a drive and a bar. Its text is read
with a colon for the bar. -/
def BarBehindHost (u : Url) : Prop :=
  u.scheme = "file" ∧ u.host? ≠ none ∧ ∃ parts, u.path = .segments parts ∧ ¬NoBar parts

/-- The last character of the text counts: it is no space at the end of a path without structure. -/
def EndsVisibly (u : Url) : Prop :=
  ∀ s, u.path = .plain s → u.query = none → u.fragment = none → s.toList.getLast? ≠ some ' '

theorem readWithScheme_text {u : Url} (h : u.Settled) (hbar : ¬u.BarBehindHost) :
    readWithScheme none u.scheme (u.front ++ (u.path.text.toList ++ u.ending)) = .ok u := by
  cases hauthority : u.authority with
  | none => exact readWithScheme_rootless h hauthority
  | some a =>
    have hfront : u.front = '/' :: '/' :: a.text.toList := by rw [front, hauthority]
    rw [hfront, List.cons_append, List.cons_append]
    by_cases hfile : u.scheme = "file"
    · obtain ⟨ha, -, -⟩ := (if_pos hfile).mp (h.authority a hauthority)
      have hnobar : a.host ≠ none → ∀ parts, u.path = .segments parts → NoBar parts := by
        intro hhost parts hparts
        by_contra hno
        refine hbar ⟨hfile, ?_, parts, hparts, hno⟩
        simpa [host?, hauthority] using hhost
      have hread := readFile_text h hfile (hauthority.trans (congrArg some ha)) hnobar
      rw [← ha] at hread
      simpa [readWithScheme, hfile, Style.of] using hread
    · have hread := readAfterSlashes_text h hauthority hfile
      have hstyle : (Style.of u.scheme).file = false := by simpa [Style.of] using hfile
      unfold readWithScheme
      simp only [hstyle, Bool.false_eq_true, if_false]
      split_ifs with hspecial
      · have hsettled : a.Settled u.scheme := by simpa [hfile] using h.authority a hauthority
        have hdrop : ('/' :: '/' :: (a.text.toList ++ (u.path.text.toList ++ u.ending))).dropWhile
            anySlash = a.text.toList ++ (u.path.text.toList ++ u.ending) := by
          rw [List.dropWhile_cons_of_pos rfl, List.dropWhile_cons_of_pos rfl]
          apply dropWhile_of_head
          intro c hc
          obtain ⟨d, ds, hds⟩ := List.exists_cons_of_ne_nil (text_ne_nil hsettled hspecial)
          obtain rfl : d = c := by simpa [hds] using hc
          have hends := endsAuthority_of_mem_text hsettled (Style.of u.scheme) d (by simp [hds])
          simp only [Style.endsAuthority, Style.isSlash, hspecial, Bool.or_eq_false_iff,
            Bool.true_and] at hends
          simpa [anySlash] using hends.1.1
        rw [hdrop, hread]
      · exact hread

/-- A character that counts wherever it stands. -/
structure Visible (c : Char) : Prop where
  large : 32 < c.toNat
  control : controlSet c = false

theorem lt_of_controlSet {c : Char} (h : controlSet c = false) (hspace : c ≠ ' ') :
    32 < c.toNat := by
  have hne : c.toNat ≠ 32 := by
    intro heq
    apply hspace
    rw [← Char.ofNat_toNat c, heq]
  simp only [controlSet, Bool.or_eq_false_iff, decide_eq_false_iff_not] at h
  omega

theorem Clean.visible {inSet : Char → Bool} {cs : List Char} (h : Clean inSet cs)
    (hcontrol : ∀ c, inSet c = false → controlSet c = false) (hspace : inSet ' ' = true) :
    ∀ c ∈ cs, Visible c := by
  intro c hc
  have hnone := hcontrol c (h c hc).2
  exact ⟨lt_of_controlSet hnone (h.ne hspace c hc), hnone⟩

theorem visible_of_partsAuthority {c : Char} (h : c = '@' ∨ Host.partsAuthority c = false) :
    Visible c := by
  rcases h with rfl | h
  · exact ⟨by decide, by decide⟩
  · simp only [Host.partsAuthority, Bool.or_eq_false_iff, decide_eq_false_iff_not] at h
    have hcontrol : c.toNat < 32 ∨ c.toNat = 127 → False := by omega
    refine ⟨by omega, ?_⟩
    simpa [controlSet] using hcontrol

variable {u : Url}

theorem visible_of_mem_front (h : u.Settled) : ∀ c ∈ u.front, Visible c := by
  have hslash : Visible '/' := ⟨by decide, by decide⟩
  unfold front
  cases hauthority : u.authority with
  | none =>
    dsimp only
    split_ifs
    · exact List.forall_mem_cons.2
        ⟨hslash, List.forall_mem_cons.2 ⟨⟨by decide, by decide⟩, by simp⟩⟩
    · simp
  | some a =>
    refine List.forall_mem_cons.2 ⟨hslash, List.forall_mem_cons.2 ⟨hslash, fun c hc => ?_⟩⟩
    have hsettled := h.authority a hauthority
    split_ifs at hsettled
    · obtain ⟨ha, -, hhost⟩ := hsettled
      rw [ha] at hc
      have hc : c ∈ a.hostText.toList := by
        simpa [Authority.text, Authority.userinfo, Authority.hostText, fileAuthority] using hc
      unfold Authority.hostText at hc
      cases hsome : a.host with
      | none => simp [hsome] at hc
      | some host =>
        rw [hsome] at hc
        exact visible_of_partsAuthority (.inr ((hhost host hsome).chars c hc))
    · exact visible_of_partsAuthority (partsAuthority_of_mem_text hsettled c hc)

theorem visible_of_mem_ending (h : u.Settled) : ∀ c ∈ u.ending, Visible c := by
  intro c hc
  rcases List.mem_append.1 hc with hc | hc
  · unfold after at hc
    cases hq : u.query with
    | none => simp [hq] at hc
    | some q =>
      have hclean : Clean querySet q.toList := (h.query q hq).mono fun c => querySet_of_querySetOf
      simp only [hq, Option.map_some, Option.getD_some, String.toList_append, List.mem_append] at hc
      rcases hc with hc | hc
      · obtain rfl : c = '?' := by simpa using hc
        exact ⟨by decide, by decide⟩
      · exact hclean.visible (fun c => controlSet_of_querySet) (by decide) c hc
  · unfold after at hc
    cases hf : u.fragment with
    | none => simp [hf] at hc
    | some f =>
      simp only [hf, Option.map_some, Option.getD_some, String.toList_append, List.mem_append] at hc
      rcases hc with hc | hc
      · obtain rfl : c = '#' := by simpa using hc
        exact ⟨by decide, by decide⟩
      · exact (h.fragment f hf).visible (fun c => controlSet_of_fragmentSet) (by decide) c hc

theorem visible_of_mem_segments (h : u.Settled) (hparts : u.path = .segments parts) :
    ∀ c ∈ u.path.text.toList, Visible c := by
  have hsegments := h.segments parts hparts
  rw [hparts]
  by_cases hne : parts = []
  · subst hne
    simp [UrlPath.text, String.join]
  · rw [toList_segments_text hne]
    have hslash : Visible '/' := ⟨by decide, by decide⟩
    refine List.forall_mem_cons.2 ⟨hslash, fun c hc => ?_⟩
    rcases mem_of_mem_intercalate hc with rfl | ⟨cs, hcs, hc⟩
    · exact hslash
    · obtain ⟨part, hpart, rfl⟩ := List.mem_map.1 hcs
      exact (hsegments.each part hpart).clean.visible (fun c => controlSet_of_pathSet) (by decide)
        c hc

theorem control_of_mem_path (h : u.Settled) : ∀ c ∈ u.path.text.toList, controlSet c = false := by
  cases hparts : u.path with
  | segments parts =>
    rw [← hparts]
    exact fun c hc => (visible_of_mem_segments h hparts c hc).control
  | plain s => exact fun c hc => ((h.plain s hparts).2.clean c hc).2

theorem large_of_getLast? (h : u.Settled) (hend : u.EndsVisibly) {c : Char}
    (hc : (u.path.text.toList ++ u.ending).getLast? = some c) : 32 < c.toNat := by
  by_cases hnone : u.ending = []
  · rw [hnone, List.append_nil] at hc
    have hmem := List.mem_of_getLast? hc
    cases hparts : u.path with
    | segments parts => exact (visible_of_mem_segments h hparts c hmem).large
    | plain s =>
      obtain ⟨hquery, hfragment⟩ := ending_eq_nil_iff.1 hnone
      apply lt_of_controlSet (control_of_mem_path h c hmem)
      rintro rfl
      rw [hparts] at hc
      exact hend s hparts hquery hfragment hc
  · rw [List.getLast?_append_of_ne_nil _ hnone] at hc
    exact (visible_of_mem_ending h c (List.mem_of_getLast? hc)).large

theorem significant_text (h : u.Settled) (hend : u.EndsVisibly) :
    significant u.text = u.text.toList := by
  have hscheme : ∀ c ∈ u.scheme.toList, Visible c := fun c hc =>
    have hfacts := isSchemeChar_facts (h.scheme.chars c hc).1
    ⟨hfacts.1, hfacts.2.1⟩
  have hcolon : Visible ':' := ⟨by decide, by decide⟩
  have hfront := visible_of_mem_front h
  apply significant_of
  · rw [toList_text]
    intro c hc
    simp only [List.mem_append, List.mem_cons] at hc
    rcases hc with hc | rfl | hc | hc | hc
    · exact (hscheme c hc).control
    · exact hcolon.control
    · exact (hfront c hc).control
    · exact control_of_mem_path h c hc
    · exact (visible_of_mem_ending h c hc).control
  · rw [toList_text]
    intro c hc
    rw [List.head?_append, Option.or_eq_some_iff] at hc
    rcases hc with hc | ⟨-, hc⟩
    · exact (hscheme c (List.mem_of_mem_head? hc)).large
    · cases hc
      exact hcolon.large
  · rw [toList_text, ← List.cons_append, ← List.append_assoc]
    intro c hc
    by_cases hrest : u.path.text.toList ++ u.ending = []
    · rw [hrest, List.append_nil] at hc
      have hmem := List.mem_of_getLast? hc
      simp only [List.mem_append, List.mem_cons] at hmem
      rcases hmem with hc | rfl | hc
      · exact (hscheme c hc).large
      · exact hcolon.large
      · exact (hfront c hc).large
    · rw [List.getLast?_append_of_ne_nil _ hrest] at hc
      exact large_of_getLast? h hend hc

/-- A URL is read back from its text. -/
theorem parse_text (h : u.Settled) (hbar : ¬u.BarBehindHost) (hend : u.EndsVisibly) :
    Url.parse u.text = .ok u := by
  unfold parse read
  dsimp only
  rw [significant_text h hend, toList_text, readScheme?_text h.scheme]
  exact readWithScheme_text h hbar

end Url

end SignIn
