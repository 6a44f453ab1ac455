import Mathlib.Logic.Relation
import Mathlib.Tactic.SplitIfs
import SignIn.Proofs.LoginFlow

/-!
# What a callback is answered

The checks of a callback, one rule for each answer. A rule says of the pairs of the query what has
to come first under which name, and that the rules before it do not apply; so exactly one applies.
Whatever says nothing new, a pair of another name, a second pair of the same name, or another order
of pairs with different names, changes no first value and so no answer. The kept state is used up
whatever the answer is.
-/

namespace SignIn

open Text

/-! ## First values -/

/-- The value of the first of the pairs with a name, none if no pair has it. -/
inductive FirstValue (name : String) : List (String × String) → Option String → Prop
  | none {pairs : List (String × String)} (h : ∀ p ∈ pairs, p.1 ≠ name) :
      FirstValue name pairs none
  | some {before after : List (String × String)} {value : String}
      (h : ∀ p ∈ before, p.1 ≠ name) :
      FirstValue name (before ++ (name, value) :: after) (some value)

theorem firstValue_iff {name : String} {pairs : List (String × String)} {o : Option String} :
    FirstValue name pairs o ↔ Form.first? name pairs = o := by
  have hother : ∀ ps : List (String × String),
      (∀ p ∈ ps, (name != p.1) = true) ↔ ∀ p ∈ ps, p.1 ≠ name := by
    simp only [bne_iff_ne, ne_comm, implies_true]
  constructor
  · rintro (⟨h⟩ | ⟨h⟩)
    · exact List.lookup_eq_none_iff.2 ((hother _).2 h)
    · exact List.lookup_eq_some_iff.2 ⟨_, _, rfl, (hother _).2 h⟩
  · cases o with
    | none => exact fun h => .none ((hother _).1 (List.lookup_eq_none_iff.1 h))
    | some value =>
      intro h
      obtain ⟨before, after, rfl, hbefore⟩ := List.lookup_eq_some_iff.1 h
      exact .some ((hother _).1 hbefore)

theorem Form.first?_append (name : String) (ps qs : List (String × String)) :
    first? name (ps ++ qs) = (first? name ps).or (first? name qs) :=
  List.lookup_append

theorem Form.first?_cons (name : String) (p : String × String) (ps : List (String × String)) :
    first? name (p :: ps) = if p.1 = name then some p.2 else first? name ps := by
  obtain ⟨k, v⟩ := p
  by_cases hk : k = name
  · subst hk
    simp [first?]
  · have hne : (name == k) = false := by simpa using Ne.symm hk
    simp [first?, List.lookup_cons, hne, hk]

namespace CallbackParams

theorem put_eq (p : CallbackParams) (pair : String × String) :
    p.put pair =
      ⟨p.code.or (Form.first? "code" [pair]), p.state.or (Form.first? "state" [pair]),
        p.iss.or (Form.first? "iss" [pair]), p.error.or (Form.first? "error" [pair]),
        p.errorDescription.or (Form.first? "error_description" [pair])⟩ := by
  obtain ⟨name, value⟩ := pair
  have hnone : ∀ n, Form.first? n [] = none := fun _ => rfl
  unfold put
  split <;> simp_all [Form.first?_cons]

theorem foldl_put (pairs : List (String × String)) (p : CallbackParams) :
    pairs.foldl put p =
      ⟨p.code.or (Form.first? "code" pairs), p.state.or (Form.first? "state" pairs),
        p.iss.or (Form.first? "iss" pairs), p.error.or (Form.first? "error" pairs),
        p.errorDescription.or (Form.first? "error_description" pairs)⟩ := by
  induction pairs generalizing p with
  | nil => simp [Form.first?]
  | cons pair pairs ih =>
    have hfirst : ∀ n, Form.first? n (pair :: pairs) =
        (Form.first? n [pair]).or (Form.first? n pairs) :=
      fun n => Form.first?_append n [pair] pairs
    rw [List.foldl_cons, ih, put_eq]
    simp only [hfirst, Option.or_assoc]

theorem ofPairs_eq (pairs : List (String × String)) :
    ofPairs pairs =
      ⟨Form.first? "code" pairs, Form.first? "state" pairs, Form.first? "iss" pairs,
        Form.first? "error" pairs, Form.first? "error_description" pairs⟩ := by
  rw [ofPairs, foldl_put]
  simp only [Option.none_or]

end CallbackParams

/-! ## The rules -/

/-- The answer to a callback while a state is expected. -/
inductive Ruled (e : Endpoints) (expected callback : String) :
    Except AuthFault TokenRequest → Prop
  /-- The callback is no URL. -/
  | unreadable {fault : UrlFault} (hread : Url.parse callback = .error fault) :
      Ruled e expected callback (.error (.url fault))
  /-- The server says that it refused, even by an empty text. -/
  | denied {u : Url} {error : String} {description : Option String}
      (hread : Url.parse callback = .ok u) (herror : FirstValue "error" u.pairs (some error))
      (hdescription : FirstValue "error_description" u.pairs description) :
      Ruled e expected callback (.error (.denied error description))
  /-- Its state, empty if there is none, is another. -/
  | strange {u : Url} {state : Option String} (hread : Url.parse callback = .ok u)
      (herror : FirstValue "error" u.pairs none) (hstate : FirstValue "state" u.pairs state)
      (hother : state.getD "" ≠ expected) : Ruled e expected callback (.error .stateMismatch)
  /-- It comes from another server. -/
  | foreign {u : Url} {state : Option String} {iss : String} (hread : Url.parse callback = .ok u)
      (herror : FirstValue "error" u.pairs none) (hstate : FirstValue "state" u.pairs state)
      (hexpected : state.getD "" = expected) (hiss : FirstValue "iss" u.pairs (some iss))
      (hother : iss ≠ e.issuer) :
      Ruled e expected callback (.error (.issuerMismatch e.issuer iss))
  /-- Its code is missing or empty. -/
  | codeless {u : Url} {state iss code : Option String} (hread : Url.parse callback = .ok u)
      (herror : FirstValue "error" u.pairs none) (hstate : FirstValue "state" u.pairs state)
      (hexpected : state.getD "" = expected) (hiss : FirstValue "iss" u.pairs iss)
      (hown : ∀ i, iss = some i → i = e.issuer) (hcode : FirstValue "code" u.pairs code)
      (hempty : code.getD "" = "") : Ruled e expected callback (.error .missingCode)
  /-- Its code is exchanged, for the URL without query and fragment. -/
  | accepted {u : Url} {state iss : Option String} {code : String}
      (hread : Url.parse callback = .ok u) (herror : FirstValue "error" u.pairs none)
      (hstate : FirstValue "state" u.pairs state) (hexpected : state.getD "" = expected)
      (hiss : FirstValue "iss" u.pairs iss) (hown : ∀ i, iss = some i → i = e.issuer)
      (hcode : FirstValue "code" u.pairs (some code)) (hfilled : code ≠ "") :
      Ruled e expected callback (.ok ⟨e.token, code, u.bare.text, e.clientId⟩)

theorem exists_ruled (e : Endpoints) (expected callback : String) :
    ∃ r, Ruled e expected callback r := by
  cases hread : Url.parse callback with
  | error fault => exact ⟨_, .unreadable hread⟩
  | ok u =>
    have hfirst : ∀ name, ∃ o, FirstValue name u.pairs o := fun _ => ⟨_, firstValue_iff.2 rfl⟩
    obtain ⟨error, herror⟩ := hfirst "error"
    obtain ⟨description, hdescription⟩ := hfirst "error_description"
    obtain ⟨state, hstate⟩ := hfirst "state"
    obtain ⟨iss, hiss⟩ := hfirst "iss"
    obtain ⟨code, hcode⟩ := hfirst "code"
    cases error with
    | some error => exact ⟨_, .denied hread herror hdescription⟩
    | none =>
      by_cases hexpected : state.getD "" = expected
      · by_cases hown : ∀ i, iss = some i → i = e.issuer
        · by_cases hempty : code.getD "" = ""
          · exact ⟨_, .codeless hread herror hstate hexpected hiss hown hcode hempty⟩
          · cases code with
            | none => exact absurd rfl hempty
            | some code =>
              exact ⟨_, .accepted hread herror hstate hexpected hiss hown hcode hempty⟩
        · obtain ⟨i, hforeign⟩ := not_forall.1 hown
          obtain ⟨rfl, hother⟩ := Classical.not_imp.1 hforeign
          exact ⟨_, .foreign hread herror hstate hexpected hiss hother⟩
      · exact ⟨_, .strange hread herror hstate hexpected⟩

namespace LoginFlow

variable {e : Endpoints} {expected callback : String} {r : Except AuthFault TokenRequest}

theorem checkCallback_of_ruled (h : Ruled e expected callback r) :
    checkCallback e expected callback = r := by
  cases h with
  | unreadable hread => rw [checkCallback, hread]
  | denied hread herror hdescription =>
    rw [firstValue_iff] at herror hdescription
    rw [checkCallback, hread]
    simp only [check, CallbackParams.ofUrl, CallbackParams.ofPairs_eq, herror, hdescription]
  | strange hread herror hstate hother =>
    rw [firstValue_iff] at herror hstate
    rw [checkCallback, hread]
    have hsame : sameSecret _ expected = false :=
      Bool.eq_false_iff.2 fun hsame => hother (eq_of_sameSecret hsame)
    simp only [check, CallbackParams.ofUrl, CallbackParams.ofPairs_eq, herror, hstate, hsame,
      Bool.not_false, if_true]
  | @foreign u state iss hread herror hstate hexpected hiss hother =>
    rw [firstValue_iff] at herror hstate hiss
    have hforeign : (some iss).filter (· ≠ e.issuer) = some iss := by simpa using hother
    rw [checkCallback, hread]
    simp only [check, CallbackParams.ofUrl, CallbackParams.ofPairs_eq, herror, hstate, hiss,
      hexpected, sameSecret_self, hforeign, Bool.not_true, Bool.false_eq_true, if_false]
  | @codeless u state iss code hread herror hstate hexpected hiss hown hcode hempty =>
    rw [firstValue_iff] at herror hstate hiss hcode
    have hforeign : iss.filter (· ≠ e.issuer) = none := by
      simpa [Option.filter_eq_none_iff] using hown
    have hnone : code.filter (· ≠ "") = none := by
      cases code with
      | none => rfl
      | some code => simpa using hempty
    rw [checkCallback, hread]
    simp only [check, CallbackParams.ofUrl, CallbackParams.ofPairs_eq, herror, hstate, hiss, hcode,
      hexpected, sameSecret_self, hforeign, hnone, Bool.not_true, Bool.false_eq_true, if_false]
  | accepted hread herror hstate hexpected hiss hown hcode hfilled =>
    rw [firstValue_iff] at herror hstate hiss hcode
    rw [checkCallback, hread]
    refine check_eq_ok_iff.2 ?_
    rw [CallbackParams.ofUrl, CallbackParams.ofPairs_eq]
    refine ⟨herror, ?_, fun i hi => hown i (hiss.symm.trans hi), _, hcode, hfilled, rfl⟩
    rw [← hexpected, ← hstate]

/-- Exactly one rule applies, and it gives the answer. -/
theorem checkCallback_eq_iff :
    checkCallback e expected callback = r ↔ Ruled e expected callback r := by
  refine ⟨?_, checkCallback_of_ruled⟩
  rintro rfl
  obtain ⟨r, h⟩ := exists_ruled e expected callback
  rw [checkCallback_of_ruled h]
  exact h

end LoginFlow

/-! ## What says nothing new -/

def callbackNames : List String := ["error", "error_description", "state", "iss", "code"]

/-- Pairs and the same pairs with another one that says nothing new, or with two of them in the
other order. -/
inductive SaysNoMore : List (String × String) → List (String × String) → Prop
  | unrelated {before after : List (String × String)} {p : String × String}
      (h : p.1 ∉ callbackNames) : SaysNoMore (before ++ after) (before ++ p :: after)
  | repeated {before after : List (String × String)} {p q : String × String} (hq : q ∈ before)
      (h : p.1 = q.1) : SaysNoMore (before ++ after) (before ++ p :: after)
  | swapped {before after : List (String × String)} {p q : String × String} (h : p.1 ≠ q.1) :
      SaysNoMore (before ++ p :: q :: after) (before ++ q :: p :: after)

theorem SaysNoMore.first?_eq {ps qs : List (String × String)} (h : SaysNoMore ps qs) {name : String}
    (hname : name ∈ callbackNames) : Form.first? name ps = Form.first? name qs := by
  cases h with
  | @unrelated before after p h =>
    have hne : p.1 ≠ name := fun hp => h (hp ▸ hname)
    rw [Form.first?_append, Form.first?_append, Form.first?_cons, if_neg hne]
  | @repeated before after p q hq h =>
    rw [Form.first?_append, Form.first?_append, Form.first?_cons]
    split_ifs with hp
    · -- The name was met before, so what comes later does not count.
      cases hfirst : Form.first? name before with
      | some v => rfl
      | none =>
        cases firstValue_iff.2 hfirst with
        | none hother => exact absurd (h.symm.trans hp) (hother q hq)
    · rfl
  | @swapped before after p q h =>
    rw [Form.first?_append, Form.first?_append]
    simp only [Form.first?_cons]
    split_ifs with hp hq
    · exact absurd (hp.trans hq.symm) h
    · rfl
    · rfl
    · rfl

/-- Nor does any number of such changes, there or back, change a first value. -/
theorem first?_eq_of_eqvGen {ps qs : List (String × String)} (h : Relation.EqvGen SaysNoMore ps qs)
    {name : String} (hname : name ∈ callbackNames) :
    Form.first? name ps = Form.first? name qs := by
  induction h with
  | rel ps qs h => exact h.first?_eq hname
  | refl ps => rfl
  | symm ps qs _ ih => exact ih.symm
  | trans ps qs rs _ _ ihp ihq => exact ihp.trans ihq

theorem CallbackParams.ofPairs_eq_of_eqvGen {ps qs : List (String × String)}
    (h : Relation.EqvGen SaysNoMore ps qs) : ofPairs ps = ofPairs qs := by
  rw [ofPairs_eq, ofPairs_eq, first?_eq_of_eqvGen h (by decide : "code" ∈ callbackNames),
    first?_eq_of_eqvGen h (by decide : "state" ∈ callbackNames),
    first?_eq_of_eqvGen h (by decide : "iss" ∈ callbackNames),
    first?_eq_of_eqvGen h (by decide : "error" ∈ callbackNames),
    first?_eq_of_eqvGen h (by decide : "error_description" ∈ callbackNames)]

theorem LoginFlow.checkCallback_eq_of_eqvGen {callback callback' : String} {u u' : Url}
    (hread : Url.parse callback = .ok u) (hread' : Url.parse callback' = .ok u')
    (hbare : u.bare = u'.bare) (h : Relation.EqvGen SaysNoMore u.pairs u'.pairs) (e : Endpoints)
    (expected : String) :
    checkCallback e expected callback = checkCallback e expected callback' := by
  unfold checkCallback
  rw [hread, hread']
  dsimp only
  unfold check CallbackParams.ofUrl redirectUriOf
  rw [CallbackParams.ofPairs_eq_of_eqvGen h, hbare]

/-! ## The answer -/

/-- A callback finds no state exactly if none is kept. A kept state is gone afterwards, whatever
the answer is, and nothing else is. The answer is the one that the rules give, and stays the same
for a callback that differs in nothing but what says nothing new. -/
theorem callback_is_answered_by_rule {σ : Type} {s : Storage σ} {Holds : σ → Entries → Prop}
    (hs : s.Reliable Holds) {d : σ} {st : Entries} (hd : Holds d st) (e : Endpoints)
    (callback : String) :
    ∃ answer after st', LoginFlow.prepare s e callback d = (answer, after) ∧ Holds after st' ∧
      (∀ k, st'.get? k = if k = stateKey then none else st.get? k) ∧
      (answer = .error .missingState ↔ st.get? stateKey = none) ∧
      (∀ expected, st.get? stateKey = some expected →
        ∀ r, answer = r ↔ Ruled e expected callback r) ∧
      ∀ callback' u u', Url.parse callback = .ok u → Url.parse callback' = .ok u' →
        u.bare = u'.bare → Relation.EqvGen SaysNoMore u.pairs u'.pairs →
          (LoginFlow.prepare s e callback' d).1 = answer := by
  obtain ⟨hanswer, hafter⟩ := hs.prepare e callback d st hd
  rw [LoginFlow.prepare_memory] at hanswer hafter
  have hruled : ∀ expected, st.get? stateKey = some expected → ∀ r,
      LoginFlow.verdict e st callback = r ↔ Ruled e expected callback r := by
    intro expected hstate r
    rw [LoginFlow.verdict, hstate]
    exact LoginFlow.checkCallback_eq_iff
  refine ⟨LoginFlow.verdict e st callback, _, st.erase stateKey, Prod.ext hanswer rfl, hafter,
    st.get?_erase stateKey, ?_, hruled, ?_⟩
  · cases hstate : st.get? stateKey with
    | none => simp [LoginFlow.verdict, hstate]
    | some expected =>
      refine ⟨fun h => ?_, by simp⟩
      -- No rule finds no state.
      cases (hruled expected hstate _).1 h
  · intro callback' u u' hread hread' hbare hnoise
    rw [(hs.prepare e callback' d st hd).1, LoginFlow.prepare_memory]
    unfold LoginFlow.verdict
    cases st.get? stateKey with
    | none => rfl
    | some expected =>
      exact (LoginFlow.checkCallback_eq_of_eqvGen hread hread' hbare hnoise e expected).symm

set_option maxRecDepth 10000 in
/-- The first code counts, decoded, and nothing behind it; the state is used up. -/
theorem callback_is_answered_by_rule_plainly :
    let st := (Entries.empty.set tokenKey "t").set stateKey "s1"
    let request : TokenRequest := ⟨Endpoints.sample.token, "a+b", "https://app.example/cb",
      Endpoints.sample.clientId⟩
    ∃ after st', LoginFlow.prepare .memory .sample
          "https://app.example/cb?state=s1&code=a%2Bb&code=c&x=1#top" st = (.ok request, after) ∧
        after = st' ∧ st'.get? stateKey = none ∧ st'.get? tokenKey = some "t" ∧
        (LoginFlow.prepare .memory .sample "https://app.example/cb?code=a%2Bb&state=s1" st).1 =
          .ok request := by
  intro st request
  let long : Url := { Url.secure "app.example" ["cb"] with
    query := some "state=s1&code=a%2Bb&code=c&x=1", fragment := some "top" }
  let short : Url := { Url.secure "app.example" ["cb"] with query := some "code=a%2Bb&state=s1" }
  have hlong : Url.parse "https://app.example/cb?state=s1&code=a%2Bb&code=c&x=1#top" = .ok long :=
    rfl
  have hshort : Url.parse "https://app.example/cb?code=a%2Bb&state=s1" = .ok short := rfl
  obtain ⟨answer, after, st', hprepare, hafter, hkeys, -, hruled, hsame⟩ :=
    callback_is_answered_by_rule Storage.memory_reliable (rfl : st = st) .sample
      "https://app.example/cb?state=s1&code=a%2Bb&code=c&x=1#top"
  have hfirst : ∀ name, FirstValue name long.pairs (Form.first? name long.pairs) :=
    fun name => firstValue_iff.2 rfl
  have hanswer : answer = .ok request :=
    (hruled "s1" rfl _).2 (.accepted hlong (hfirst "error") (hfirst "state") rfl (hfirst "iss")
      (by decide) (hfirst "code") (by decide))
  subst hanswer
  refine ⟨after, st', hprepare, hafter, hkeys stateKey, hkeys tokenKey, ?_⟩
  refine hsame _ _ _ hlong hshort rfl (.symm _ _ ?_)
  -- The pairs behind the code say nothing new, nor does the order of the other two.
  have hswap : SaysNoMore [("code", "a+b"), ("state", "s1")] [("state", "s1"), ("code", "a+b")] :=
    @SaysNoMore.swapped [] [] _ _ (by decide)
  have hagain : SaysNoMore [("state", "s1"), ("code", "a+b")]
      [("state", "s1"), ("code", "a+b"), ("code", "c")] :=
    @SaysNoMore.repeated [("state", "s1"), ("code", "a+b")] [] _ ("code", "a+b") (by decide) rfl
  have hother : SaysNoMore [("state", "s1"), ("code", "a+b"), ("code", "c")]
      [("state", "s1"), ("code", "a+b"), ("code", "c"), ("x", "1")] :=
    @SaysNoMore.unrelated [("state", "s1"), ("code", "a+b"), ("code", "c")] [] _ (by decide)
  exact .trans _ _ _ (.rel _ _ hswap) (.trans _ _ _ (.rel _ _ hagain) (.rel _ _ hother))

end SignIn
