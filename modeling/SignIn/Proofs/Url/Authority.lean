import SignIn.Proofs.Url.Host
import SignIn.Url.Reader

/-!
# Authorities are read back as they were written

What stands between the slashes and the path is written from its parts and comes apart into them
again: the user name ends at the first colon, user name and password at the last `@`, the host at
the colon of the port. Every authority that is read is of the kind that is read back.
-/

namespace SignIn

open Text Url

/-- An authority that is read back in a URL of a scheme. -/
structure Authority.Settled (scheme : String) (a : Authority) : Prop where
  username : Clean userinfoSet a.username.toList
  password : ∀ p, a.password = some p → p ≠ "" ∧ Clean userinfoSet p.toList
  host : ∀ h, a.host = some h → h.Settled (isSpecial scheme)
  port : ∀ p, a.port = some p → defaultPort? scheme ≠ some p
  bare : a.host = none → isSpecial scheme = false ∧ a = ⟨"", none, none, none⟩

namespace Url

/-! ## User names and passwords -/

theorem splitUserinfo_of_forall {cs : List Char} (h : ∀ c ∈ cs, c ≠ '@') :
    splitUserinfo cs = (none, cs) := by
  have hcut : cutAt (· == '@') cs.reverse = (cs.reverse, none) := by
    apply cutAt_of_forall
    intro c hc
    simpa using h c (List.mem_reverse.1 hc)
  simp [splitUserinfo, hcut]

theorem splitUserinfo_append {info rest : List Char} (h : ∀ c ∈ rest, c ≠ '@') :
    splitUserinfo (info ++ '@' :: rest) = (some info, rest) := by
  have hreverse : (info ++ '@' :: rest).reverse = rest.reverse ++ '@' :: info.reverse := by simp
  have hcut : cutAt (· == '@') (info ++ '@' :: rest).reverse =
      (rest.reverse, some info.reverse) := by
    rw [hreverse]
    apply cutAt_append_cons _ rfl
    intro c hc
    simpa using h c (List.mem_reverse.1 hc)
  simp only [splitUserinfo, hcut]
  simp

/-- The characters of user name and password, without the sign after them. -/
def infoChars (username : String) (password : Option String) : List Char :=
  match password with
  | some p => username.toList ++ ':' :: p.toList
  | none => username.toList

theorem readUserinfo_infoChars {username : String} {password : Option String}
    (husername : Clean userinfoSet username.toList)
    (hpassword : ∀ p, password = some p → p ≠ "" ∧ Clean userinfoSet p.toList) :
    readUserinfo (infoChars username password) = (username, password) := by
  have hcolon : ∀ c ∈ username.toList, (c == ':') = false := by
    intro c hc
    simpa using husername.ne (d := ':') rfl c hc
  unfold readUserinfo infoChars
  cases password with
  | none =>
    dsimp only
    rw [cutAt_of_forall hcolon]
    simp [percentEncode_of_clean husername]
  | some p =>
    obtain ⟨hne, hclean⟩ := hpassword p rfl
    dsimp only
    rw [cutAt_append_cons hcolon rfl]
    simp [percentEncode_of_clean husername, percentEncode_of_clean hclean, hne]

/-! ## Ports -/

theorem splitPort_none {brackets : Bool} {cs host : List Char}
    (h : splitPort brackets cs = (host, none)) : host = cs := by
  induction cs generalizing brackets host with
  | nil =>
    cases h
    rfl
  | cons c cs ih =>
    rw [splitPort] at h
    split at h
    · cases h
    · obtain ⟨rfl, hport⟩ := Prod.mk.inj h
      exact congrArg (c :: ·) (ih (Prod.ext rfl hport))

theorem splitPort_some {brackets : Bool} {cs host port : List Char}
    (h : splitPort brackets cs = (host, some port)) : cs = host ++ ':' :: port := by
  induction cs generalizing brackets host with
  | nil => cases h
  | cons c cs ih =>
    rw [splitPort] at h
    split at h
    · next hc =>
      cases h
      simp only [Bool.and_eq_true, beq_iff_eq] at hc
      rw [hc.1]
      rfl
    · obtain ⟨rfl, hport⟩ := Prod.mk.inj h
      exact congrArg (c :: ·) (ih (Prod.ext rfl hport))

theorem splitPort_of_forall {cs : List Char} (h : ∀ c ∈ cs, c ∉ [':', '[', ']', '|'])
    (rest : List Char) :
    splitPort false (cs ++ rest) = (cs ++ (splitPort false rest).1, (splitPort false rest).2) := by
  induction cs with
  | nil => rfl
  | cons c cs ih =>
    have hc : c ≠ ':' ∧ c ≠ '[' ∧ c ≠ ']' := by
      have hnot := h c (by simp)
      simp only [List.mem_cons, not_or] at hnot
      exact ⟨hnot.1, hnot.2.1, hnot.2.2.1⟩
    have hrest := ih fun d hd => h d (List.mem_cons_of_mem c hd)
    simp [splitPort, hc, hrest]

theorem splitPort_inBrackets {cs : List Char} (h : ∀ c ∈ cs, c ≠ ']') (rest : List Char) :
    splitPort true (cs ++ ']' :: rest) =
      (cs ++ ']' :: (splitPort false rest).1, (splitPort false rest).2) := by
  induction cs with
  | nil => simp [splitPort]
  | cons c cs ih =>
    have hc := h c (by simp)
    have hrest := ih fun d hd => h d (List.mem_cons_of_mem c hd)
    simp [splitPort, hc, hrest]

theorem splitPort_host {special : Bool} {h : Host} (hh : h.Settled special) (rest : List Char) :
    splitPort false (h.text.toList ++ rest) =
      (h.text.toList ++ (splitPort false rest).1, (splitPort false rest).2) := by
  rcases hh.colons with ⟨inside, htext, hinside⟩ | hplain
  · have hbrackets := splitPort_inBrackets hinside rest
    rw [htext, List.cons_append, List.append_assoc, List.singleton_append]
    simp [splitPort, hbrackets]
  · exact splitPort_of_forall hplain rest

def portChars (port : Option UInt16) : List Char :=
  match port with
  | some p => ':' :: Nat.toDigits 10 p.toNat
  | none => []

theorem foldl_digits (n : Nat) :
    (Nat.toDigits 10 n).foldl (fun acc c => acc * 10 + (c.toNat - 48)) 0 = n := by
  have hten := Nat.ofDigitChars_ten_toDigits (n := n)
  unfold Nat.ofDigitChars at hten
  simpa [Nat.mul_comm] using hten

theorem readPort_digits {scheme : String} {p : UInt16} (h : defaultPort? scheme ≠ some p) :
    readPort scheme (Nat.toDigits 10 p.toNat) = .ok (some p, []) := by
  have hdigits : ∀ c ∈ Nat.toDigits 10 p.toNat, c.isDigit := fun c hc =>
    Nat.isDigit_of_mem_toDigits (by decide) (by decide) hc
  have hwhole : (Nat.toDigits 10 p.toNat).takeWhile Char.isDigit = Nat.toDigits 10 p.toNat :=
    List.takeWhile_eq_self_iff.mpr hdigits
  have hlt := p.toNat_lt
  simp only [readPort, hwhole, foldl_digits, List.drop_length]
  rw [if_neg (by omega), if_neg (by simp), if_neg (by simp [Nat.toDigits_ne_nil, h])]
  simp

/-! ## Whole authorities -/

def hostPort (a : Authority) : List Char := a.hostText.toList ++ portChars a.port

theorem toList_text_of_anonymous {a : Authority} (husername : a.username = "")
    (hpassword : a.password = none) : a.text.toList = hostPort a := by
  unfold Authority.text Authority.userinfo hostPort portChars
  rw [hpassword, husername]
  cases a.port <;> simp

theorem toList_text_of_named {a : Authority} (h : a.username ≠ "" ∨ a.password ≠ none) :
    a.text.toList = infoChars a.username a.password ++ '@' :: hostPort a := by
  unfold Authority.text Authority.userinfo hostPort portChars infoChars
  cases hpassword : a.password with
  | none =>
    have husername : a.username ≠ "" := h.resolve_right (by simp [hpassword])
    rw [if_neg husername]
    cases a.port <;> simp
  | some p => cases a.port <;> simp

variable {scheme : String} {a : Authority}

theorem digit_facts {c : Char} (h : c.isDigit) : Host.partsAuthority c = false := by
  exact forall_below (P := fun c => c.isDigit → Host.partsAuthority c = false) (by decide)
    (Domain.digit_range h).2 h

theorem partsAuthority_of_mem_portChars {port : Option UInt16} :
    ∀ c ∈ portChars port, Host.partsAuthority c = false := by
  intro c hc
  unfold portChars at hc
  split at hc
  · rcases List.mem_cons.1 hc with rfl | hc
    · decide
    · exact digit_facts (Nat.isDigit_of_mem_toDigits (by decide) (by decide) hc)
  · cases hc

theorem partsAuthority_of_mem_hostPort (h : a.Settled scheme) :
    ∀ c ∈ hostPort a, Host.partsAuthority c = false := by
  intro c hc
  rcases List.mem_append.1 hc with hc | hc
  · unfold Authority.hostText at hc
    cases hhost : a.host with
    | none => simp [hhost] at hc
    | some host =>
      rw [hhost] at hc
      exact (h.host host hhost).chars c hc
  · exact partsAuthority_of_mem_portChars c hc

theorem partsAuthority_of_clean {cs : List Char} (h : Clean userinfoSet cs) :
    ∀ c ∈ cs, Host.partsAuthority c = false := by
  intro c hc
  exact forall_below (P := fun c => userinfoSet c = false → Host.partsAuthority c = false)
    (by decide) (h c hc).1 (h c hc).2

theorem partsAuthority_of_mem_text (h : a.Settled scheme) :
    ∀ c ∈ a.text.toList, c = '@' ∨ Host.partsAuthority c = false := by
  have hinfo : ∀ c ∈ infoChars a.username a.password, Host.partsAuthority c = false := by
    intro c hc
    unfold infoChars at hc
    split at hc
    · next p hp =>
      rcases List.mem_append.1 hc with hc | hc
      · exact partsAuthority_of_clean h.username c hc
      · rcases List.mem_cons.1 hc with rfl | hc
        · decide
        · exact partsAuthority_of_clean (h.password p hp).2 c hc
    · exact partsAuthority_of_clean h.username c hc
  intro c hc
  by_cases hanonymous : a.username = "" ∧ a.password = none
  · rw [toList_text_of_anonymous hanonymous.1 hanonymous.2] at hc
    exact .inr (partsAuthority_of_mem_hostPort h c hc)
  · rw [toList_text_of_named (by tauto), List.mem_append, List.mem_cons] at hc
    rcases hc with hc | rfl | hc
    · exact .inr (hinfo c hc)
    · exact .inl rfl
    · exact .inr (partsAuthority_of_mem_hostPort h c hc)

theorem endsAuthority_of_partsAuthority {style : Style} {c : Char}
    (h : c = '@' ∨ Host.partsAuthority c = false) : style.endsAuthority c = false := by
  rw [← Bool.not_eq_true]
  intro hends
  have hsign : c = '/' ∨ c = '\\' ∨ c = '?' ∨ c = '#' := by
    simp only [Style.endsAuthority, Style.isSlash, Bool.or_eq_true, Bool.and_eq_true,
      beq_iff_eq] at hends
    tauto
  rcases hsign with rfl | rfl | rfl | rfl <;> rcases h with h | h <;> cases h

theorem endsAuthority_of_mem_text (h : a.Settled scheme) (style : Style) :
    ∀ c ∈ a.text.toList, style.endsAuthority c = false :=
  fun c hc => endsAuthority_of_partsAuthority (partsAuthority_of_mem_text h c hc)

theorem text_ne_nil (h : a.Settled scheme) (hspecial : isSpecial scheme) :
    a.text.toList ≠ [] := by
  have hhostPort : hostPort a ≠ [] := by
    cases hhost : a.host with
    | none => simp [(h.bare hhost).1] at hspecial
    | some host => simp [hostPort, Authority.hostText, hhost, (h.host host hhost).ne_nil]
  by_cases hanonymous : a.username = "" ∧ a.password = none
  · rwa [toList_text_of_anonymous hanonymous.1 hanonymous.2]
  · simp [toList_text_of_named (show a.username ≠ "" ∨ a.password ≠ none by tauto)]

theorem exists_splitUserinfo_text (h : a.Settled scheme) :
    ∃ user, splitUserinfo a.text.toList = (user, hostPort a) ∧ user ≠ some [] ∧
      readUserinfo (user.getD []) = (a.username, a.password) := by
  have hat : ∀ c ∈ hostPort a, c ≠ '@' := by
    rintro c hc rfl
    cases partsAuthority_of_mem_hostPort h _ hc
  by_cases hanonymous : a.username = "" ∧ a.password = none
  · refine ⟨none, ?_, by simp, ?_⟩
    · rw [toList_text_of_anonymous hanonymous.1 hanonymous.2, splitUserinfo_of_forall hat]
    · rw [hanonymous.1, hanonymous.2]
      rfl
  · refine ⟨some (infoChars a.username a.password), ?_, ?_, ?_⟩
    · rw [toList_text_of_named (by tauto), splitUserinfo_append hat]
    · unfold infoChars
      cases hpassword : a.password with
      | some p => simp
      | none =>
        have husername : a.username ≠ "" := fun hempty => hanonymous ⟨hempty, hpassword⟩
        simpa using husername
    · exact readUserinfo_infoChars h.username h.password

theorem splitPort_hostPort (h : a.Settled scheme) :
    splitPort false (hostPort a) =
      (a.hostText.toList, a.port.map fun p => Nat.toDigits 10 p.toNat) := by
  have hport : splitPort false (portChars a.port) =
      ([], a.port.map fun p => Nat.toDigits 10 p.toNat) := by
    unfold portChars
    cases a.port <;> simp [splitPort]
  unfold hostPort Authority.hostText
  cases hhost : a.host with
  | none => simpa using hport
  | some host => simpa [hport] using splitPort_host (h.host host hhost) (portChars a.port)

/-- The authority ends where its text does, and comes apart into its parts. -/
theorem readAuthority_text (h : a.Settled scheme) {rest : List Char}
    (hrest : rest.head?.all (Style.of scheme).endsAuthority) :
    readAuthority scheme (a.text.toList ++ rest) = .ok (a, rest) := by
  have hwhole : (a.text.toList ++ rest).takeWhile (fun c => !(Style.of scheme).endsAuthority c) =
      a.text.toList := by
    apply takeWhile_append_of_head
    · intro c hc
      rw [endsAuthority_of_mem_text h _ c hc]
      rfl
    · simpa using hrest
  obtain ⟨user, hsplit, huser, hinfo⟩ := exists_splitUserinfo_text h
  simp only [readAuthority, hwhole, List.drop_left, hsplit, hinfo, splitPort_hostPort h]
  cases hhost : a.host with
  | none =>
    obtain ⟨hspecial, rfl⟩ := h.bare hhost
    have hstyle : (Style.of scheme).special = false := hspecial
    rw [if_neg (by simp [huser]), if_neg (by simp [hstyle]), if_neg (by simp [hstyle])]
    rfl
  | some host =>
    have hsettled := h.host host hhost
    have htext : a.hostText = host.text := by simp [Authority.hostText, hhost]
    have hread : (if (Style.of scheme).special then (Host.special host.text.toList).map some
        else Host.plain host.text.toList) = .ok (some host) := hsettled.again
    have hself : (⟨a.username, a.password, some host, a.port⟩ : Authority) = a := by rw [← hhost]
    rw [if_neg (by simp [huser]), if_neg (by simp [htext, hsettled.ne_nil]), htext]
    cases hport : a.port with
    | none =>
      rw [hport] at hself
      split at hread
      all_goals
        rename_i hspecial
        simp [hspecial, hread, hself, bind, Except.bind, pure, Except.pure]
    | some p =>
      rw [hport] at hself
      have hdigits := readPort_digits (h.port p hport)
      split at hread
      all_goals
        rename_i hspecial
        simp [hspecial, hread, hself, hdigits, bind, Except.bind, pure, Except.pure]

/-! ## What is read -/

theorem clean_userinfo (cs : List Char) : Clean userinfoSet (percentEncode userinfoSet cs) :=
  clean_percentEncode (forall_of_all (by decide)) cs

theorem clean_readUserinfo {cs : List Char} {username : String} {password : Option String}
    (h : readUserinfo cs = (username, password)) :
    Clean userinfoSet username.toList ∧
      ∀ p, password = some p → p ≠ "" ∧ Clean userinfoSet p.toList := by
  unfold readUserinfo at h
  dsimp only at h
  cases h
  constructor
  · rw [String.toList_ofList]
    exact clean_userinfo _
  · intro p hp
    obtain ⟨q, hq, rfl⟩ := Option.map_eq_some_iff.1 hp
    have hne : q ≠ [] := by simpa using (Option.filter_eq_some_iff.1 hq).2
    constructor
    · intro hempty
      exact percentEncode_ne_nil hne (by simpa using congrArg String.toList hempty)
    · rw [String.toList_ofList]
      exact clean_userinfo q

theorem ne_default_of_readPort {cs rest : List Char} {port : Option UInt16}
    (h : readPort scheme cs = .ok (port, rest)) :
    ∀ p, port = some p → defaultPort? scheme ≠ some p := by
  unfold readPort at h
  dsimp only at h
  split_ifs at h with _ _ hdefault
  · cases h
    intro p hp
    cases hp
  · cases h
    intro p hp
    cases hp
    simp only [Bool.or_eq_true, beq_iff_eq, not_or] at hdefault
    exact hdefault.2

theorem settled_of_host {special : Bool} {cs : List Char} {host : Option Host}
    (h : Host.read special cs = .ok host) :
    (∀ h, host = some h → h.Settled special) ∧ (host = none → special = false) := by
  cases special with
  | true =>
    obtain ⟨host, hspecial, rfl⟩ := Host.read_special_eq_ok_iff.1 h
    constructor
    · intro h heq
      cases heq
      exact Host.settled_of_special hspecial
    · intro hnone
      cases hnone
  | false =>
    rw [Host.read, if_neg (by simp)] at h
    constructor
    · rintro host rfl
      exact Host.settled_of_plain h
    · exact fun _ => rfl

theorem settled_of_parts {info : List Char} {username : String} {password : Option String}
    {host : Option Host} {port : Option UInt16}
    (hinfo : readUserinfo info = (username, password))
    (hhost : (∀ h, host = some h → h.Settled (isSpecial scheme)) ∧
      (host = none → isSpecial scheme = false))
    (hport : ∀ p, port = some p → defaultPort? scheme ≠ some p)
    (hbare : host = none → port = none ∧ username = "" ∧ password = none) :
    Authority.Settled scheme ⟨username, password, host, port⟩ where
  username := (clean_readUserinfo hinfo).1
  password := (clean_readUserinfo hinfo).2
  host := hhost.1
  port := hport
  bare := by
    rintro rfl
    obtain ⟨rfl, rfl, rfl⟩ := hbare rfl
    exact ⟨hhost.2 rfl, rfl⟩

/-- Every authority that is read is read back from what it is written as. -/
theorem settled_of_readAuthority {cs rest : List Char}
    (h : readAuthority scheme cs = .ok (a, rest)) :
    a.Settled scheme := by
  cases hsplit : splitUserinfo (cs.takeWhile fun c => !(Style.of scheme).endsAuthority c) with
  | mk user hostport =>
  cases hinfo : readUserinfo (user.getD []) with
  | mk username password =>
  cases hparts : splitPort false hostport with
  | mk hostChars portChars =>
  have hread : ∀ host, (if (Style.of scheme).special then (Host.special hostChars).map some
      else Host.plain hostChars) = .ok host → _ := fun host => settled_of_host
  simp only [readAuthority, hsplit, hinfo, hparts] at h
  split at h
  · cases h
  split at h
  · cases h
  split at h
  all_goals
    rename_i hspecial
    obtain ⟨host, hhost, h⟩ := exists_of_bind_eq_ok h
    have hsettled := hread host (by simpa [hspecial] using hhost)
    split at h
    · cases h
    · next hportless =>
      cases portChars with
      | none =>
        obtain ⟨⟨port, left⟩, hport, h⟩ := exists_of_bind_eq_ok h
        cases hport
        split at h
        · cases h
        · next hbare =>
          cases h
          apply settled_of_parts hinfo hsettled
          · intro p hp
            cases hp
          · rintro rfl
            simpa using hbare
      | some portText =>
        obtain ⟨⟨port, left⟩, hport, h⟩ := exists_of_bind_eq_ok h
        split at h
        · cases h
        · cases h
          apply settled_of_parts hinfo hsettled (ne_default_of_readPort hport)
          rintro rfl
          simp at hportless

end Url

end SignIn
