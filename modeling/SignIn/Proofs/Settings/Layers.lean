import Mathlib.Tactic.SplitIfs
import SignIn.CommandLine.Arguments
import SignIn.Proofs.Text.Split

/-!
# The layers of the settings

Options stand over variables of the environment, these over what the file says, and all of it over
the defaults. A run has the settings of these layers exactly if the file decodes and their domains
are valid, as long as the settings below the options are valid, too, and a variable that stands in
for an option that is not given is neither blank nor blank at its ends: it is taken twice, once
without the blanks and once as it is.
-/

namespace SignIn

open Json CommandLine

/-! ## What the file says -/

namespace Settings

/-- The fields of the settings in a file, with settings that stand for missing ones. -/
def fieldsUnder (s : Settings) : List Json.Field :=
  [⟨"log_level", .text, some s.logLevel⟩,
   ⟨"server_domain", .text, some s.serverDomain⟩,
   ⟨"app_domain", .text, some s.appDomain⟩]

/-- The settings that a text describes, over others that stand for what it does not say. -/
def decodeUnder (s : Settings) (bs : Bytes) : Except Json.Refusal Settings :=
  (Json.decodeRecord "struct Config" s.fieldsUnder bs).map ofValues

theorem decodeUnder_default (bs : Bytes) : default.decodeUnder bs = decode bs := rfl

def valuesOver (said : GivenSettings) (s : Settings) : String × String × String × Unit :=
  (said.over s).values

/-- The contents of a record say some of the settings, or are refused, whatever stands for missing
ones. -/
inductive Says : (Settings → Contents (String × String × String × Unit)) → Prop where
  | some (said : GivenSettings) (rest : Bytes) :
      Says fun s => .ok (.ok (valuesOver said s), rest)
  | refused (cause : Cause) (rest : Bytes) : Says fun _ => .ok (.error cause, rest)
  | fault (f : Fault) : Says fun _ => .error f

theorem inOrder_text (expected name : String) (index : Nat) (bs : Bytes) :
    (∃ f, ∀ d fs, inOrder expected (⟨name, .text, some d⟩ :: fs) index bs = .error f) ∨
    ∃ (v : Option String) (rest : Bytes), ∀ d fs,
      inOrder expected (⟨name, .text, some d⟩ :: fs) index bs =
        (inOrder expected fs (index + 1) rest).map fun (r, rest) =>
          (r.map fun vs => (v.getD d, vs), rest) := by
  cases hnext : nextItem (index == 0) bs with
  | error f => exact .inl ⟨f, fun d fs => by simp only [inOrder, hnext]⟩
  | ok next =>
    obtain ⟨more, rest⟩ := next
    cases more with
    | false => exact .inr ⟨none, rest, fun d fs => by simp only [inOrder, hnext]; rfl⟩
    | true =>
      cases hvalue : textValue rest with
      | error f => exact .inl ⟨f, fun d fs => by simp only [inOrder, hnext, Kind.read, hvalue]⟩
      | ok value =>
        obtain ⟨v, rest'⟩ := value
        exact .inr ⟨some v, rest', fun d fs => by
          simp only [inOrder, hnext, Kind.read, hvalue]; rfl⟩

theorem says_inOrder (expected : String) (bs : Bytes) :
    Says fun s => inOrder expected s.fieldsUnder 0 bs := by
  unfold fieldsUnder
  obtain ⟨f, hlevel⟩ | ⟨level, rest, hlevel⟩ := inOrder_text expected "log_level" 0 bs
  · simp only [hlevel]
    exact .fault f
  · simp only [hlevel]
    obtain ⟨f, hserver⟩ | ⟨server, rest, hserver⟩ := inOrder_text expected "server_domain" 1 rest
    · simp only [hserver]
      exact .fault f
    · simp only [hserver]
      obtain ⟨f, happ⟩ | ⟨app, rest, happ⟩ := inOrder_text expected "app_domain" 2 rest
      · simp only [happ]
        exact .fault f
      · simp only [happ]
        exact .some ⟨level, server, app⟩ rest

theorem complete_fieldsUnder (s : Settings) (met : Gathered s.fieldsUnder) :
    complete s.fieldsUnder met = .ok (valuesOver ⟨met.1, met.2.1, met.2.2.1⟩ s) := by
  obtain ⟨level, server, app, -⟩ := met
  cases level <;> cases server <;> cases app <;> rfl

theorem says_objectOf (bs : Bytes) :
    Says fun s => (objectOf (putMember s.fieldsUnder) (Gathered.empty s.fieldsUnder) bs).map
      fun (r, rest) => (r.bind (complete s.fieldsUnder), rest) := by
  -- The members are met in the same way, whatever stands for missing ones.
  have hmet : ∀ s : Settings,
      objectOf (putMember s.fieldsUnder) (Gathered.empty s.fieldsUnder) bs =
        objectOf (putMember fields) (Gathered.empty fields) bs := fun _ => rfl
  simp only [hmet]
  cases objectOf (putMember fields) (Gathered.empty fields) bs with
  | error f => exact .fault f
  | ok contents =>
    obtain ⟨met, rest⟩ := contents
    cases met with
    | error cause => exact .refused cause rest
    | ok met =>
      have hcomplete : ∀ s : Settings, complete s.fieldsUnder met =
          .ok (valuesOver ⟨met.1, met.2.1, met.2.2.1⟩ s) := fun s => complete_fieldsUnder s met
      simp only [Except.map, Except.bind, hcomplete]
      exact .some _ rest

theorem Says.close {x : Settings → Contents (String × String × String × Unit)} (h : Says x)
    (ending : Bytes → Option Cause × Bytes) :
    (∃ said rest, ∀ s, Json.close ending (x s) = .ok (valuesOver said s, rest)) ∨
    ∃ f, ∀ s, Json.close ending (x s) = .error f := by
  cases h with
  | some said rest =>
    rcases hend : ending rest with ⟨_ | cause, rest'⟩
    · exact .inl ⟨said, rest', fun _ => by simp only [Json.close, hend]⟩
    · exact .inr ⟨.next cause rest', fun _ => by simp only [Json.close, hend]⟩
  | refused cause rest => exact .inr ⟨⟨cause, (ending rest).2⟩, fun _ => rfl⟩
  | fault f => exact .inr ⟨f, fun _ => rfl⟩

theorem readRecord_cases (title : String) (bs : Bytes) :
    (∃ said rest, ∀ s : Settings,
      readRecord title s.fieldsUnder bs = .ok (valuesOver said s, rest)) ∨
    ∃ f, ∀ s : Settings, readRecord title s.fieldsUnder bs = .error f := by
  unfold readRecord
  cases skipSpace bs with
  | nil => exact .inr ⟨_, fun _ => rfl⟩
  | cons b rest =>
    dsimp only
    split_ifs
    · exact (says_inOrder (title ++ " with " ++ elements fields.length) rest).close listEnd
    · exact (says_objectOf rest).close objectEnd
    · exact .inr ⟨_, fun _ => rfl⟩

theorem decodeUnder_cases (bs : Bytes) :
    (∃ said : GivenSettings, ∀ s, decodeUnder s bs = .ok (said.over s)) ∨
    ∃ refusal, ∀ s, decodeUnder s bs = .error refusal := by
  unfold decodeUnder decodeRecord whole
  obtain ⟨said, rest, hread⟩ | ⟨f, hread⟩ := readRecord_cases "struct Config" bs
  · simp only [hread]
    cases skipSpace rest with
    | nil => exact .inl ⟨said, fun _ => rfl⟩
    | cons b rest => exact .inr ⟨_, fun _ => rfl⟩
  · simp only [hread]
    exact .inr ⟨_, fun _ => rfl⟩

end Settings

/-- What the file of the settings says: nothing, if there is no file; otherwise that which shows,
and is all that changes, whatever settings it is put over. -/
inductive Settings.FileSays (path : FilePath) (d : Disk) : GivenSettings → Prop where
  | nothing (h : ∀ n, d.seek path ≠ .ok (some n)) : FileSays path d {}
  | content {n : Node} {content : Bytes} {said : GivenSettings}
      (hseek : d.seek path = .ok (some n)) (hread : d.read path = .ok content)
      (htext : (Bytes.text? content).isSome)
      (h : ∀ s : Settings, s.decodeUnder content = .ok (said.over s)) : FileSays path d said

theorem Option.eq_of_getD {o o' : Option String} (hempty : o.getD "" = o'.getD "")
    (hother : o.getD "a" = o'.getD "a") : o = o' := by
  cases o with
  | none =>
    cases o' with
    | none => rfl
    | some v =>
      dsimp only [Option.getD] at hempty hother
      exact absurd (hempty.trans hother.symm) (by decide)
  | some v =>
    cases o' with
    | none =>
      dsimp only [Option.getD] at hempty hother
      exact absurd (hempty.symm.trans hother) (by decide)
    | some v' => exact congrArg some hempty

theorem CommandLine.GivenSettings.eq_of_over {g g' : GivenSettings}
    (hempty : g.over ⟨"", "", ""⟩ = g'.over ⟨"", "", ""⟩)
    (hother : g.over ⟨"a", "a", "a"⟩ = g'.over ⟨"a", "a", "a"⟩) : g = g' := by
  obtain ⟨level, server, app⟩ := g
  obtain ⟨level', server', app'⟩ := g'
  obtain ⟨hlevel, hserver, happ⟩ := Settings.mk.inj hempty
  obtain ⟨hlevel', hserver', happ'⟩ := Settings.mk.inj hother
  have hlevels : level = level' := Option.eq_of_getD hlevel hlevel'
  have hservers : server = server' := Option.eq_of_getD hserver hserver'
  have happs : app = app' := Option.eq_of_getD happ happ'
  rw [hlevels, hservers, happs]

theorem Settings.eq_of_fields {s t : Settings} (hlevel : s.logLevel = t.logLevel)
    (hserver : s.serverDomain = t.serverDomain) (happ : s.appDomain = t.appDomain) : s = t := by
  cases s
  cases t
  congr

namespace Settings

variable {shown : String} {path : FilePath} {d : Disk} {env : Environment}

theorem FileSays.unique {said said' : GivenSettings} (h : FileSays path d said)
    (h' : FileSays path d said') : said = said' := by
  cases h with
  | nothing hnone =>
    cases h' with
    | nothing => rfl
    | content hseek => exact absurd hseek (hnone _)
  | content hseek hread htext hsaid =>
    cases h' with
    | nothing hnone => exact absurd hseek (hnone _)
    | content hseek' hread' htext' hsaid' =>
      cases hread.symm.trans hread'
      exact CommandLine.GivenSettings.eq_of_over
        (Except.ok.inj ((hsaid _).symm.trans (hsaid' _)))
        (Except.ok.inj ((hsaid _).symm.trans (hsaid' _)))

theorem ofFile_eq_ok_iff {content : Bytes} {s : Settings} :
    ofFile shown content = .ok s ↔ (Bytes.text? content).isSome ∧ decode content = .ok s := by
  unfold ofFile
  cases Bytes.text? content with
  | none => simp
  | some text => cases decode content <;> simp

theorem decode_eq_ok_iff {content : Bytes} {s : Settings} :
    decode content = .ok s ↔
      ∃ said : GivenSettings, (∀ t, decodeUnder t content = .ok (said.over t)) ∧
        s = said.over default := by
  rw [← decodeUnder_default]
  constructor
  · intro h
    obtain ⟨said, hsaid⟩ | ⟨refusal, hrefusal⟩ := decodeUnder_cases content
    · exact ⟨said, hsaid, Except.ok.inj (h.symm.trans (hsaid default))⟩
    · cases h.symm.trans (hrefusal default)
  · rintro ⟨said, hsaid, rfl⟩
    exact hsaid default

/-- What a text says is seen under two settings that differ in all fields. -/
theorem decodeUnder_of_two {content : Bytes} {said : GivenSettings}
    (hempty : decodeUnder ⟨"", "", ""⟩ content = .ok (said.over ⟨"", "", ""⟩))
    (hother : decodeUnder ⟨"a", "a", "a"⟩ content = .ok (said.over ⟨"a", "a", "a"⟩))
    (s : Settings) : decodeUnder s content = .ok (said.over s) := by
  obtain ⟨said', hsaid⟩ | ⟨refusal, hrefusal⟩ := decodeUnder_cases content
  · have hsame : said' = said := CommandLine.GivenSettings.eq_of_over
      (Except.ok.inj ((hsaid _).symm.trans hempty)) (Except.ok.inj ((hsaid _).symm.trans hother))
    rw [← hsame]
    exact hsaid s
  · cases hempty.symm.trans (hrefusal _)

def stored (shown : String) (path : FilePath) (d : Disk) : Except SettingsFault Settings :=
  match d.seek path with
  | .ok (some _) => loadFile shown path d
  | _ => pure default

theorem stored_eq_ok_iff {s : Settings} :
    stored shown path d = .ok s ↔ ∃ said, FileSays path d said ∧ s = said.over default := by
  unfold stored
  split
  · rename_i n hseek
    unfold loadFile
    constructor
    · intro h
      cases hread : d.read path with
      | error fault =>
        rw [hread] at h
        cases h
      | ok content =>
        rw [hread] at h
        obtain ⟨htext, hdecode⟩ := ofFile_eq_ok_iff.mp h
        obtain ⟨said, hsaid, hs⟩ := decode_eq_ok_iff.mp hdecode
        exact ⟨said, .content hseek hread htext hsaid, hs⟩
    · rintro ⟨said, hsays, hs⟩
      cases hsays with
      | nothing hnone => exact absurd hseek (hnone n)
      | content hseek hread htext hsaid =>
        rw [hread]
        exact ofFile_eq_ok_iff.mpr ⟨htext, decode_eq_ok_iff.mpr ⟨said, hsaid, hs⟩⟩
  · rename_i hseek
    constructor
    · intro h
      cases h
      exact ⟨{}, .nothing hseek, rfl⟩
    · rintro ⟨said, hsays, rfl⟩
      cases hsays with
      | nothing => rfl
      | content hseek' => exact absurd hseek' (hseek _)

theorem load_eq : load shown path d env = match stored shown path d with
      | .error fault => .error fault
      | .ok base =>
        match (base.override env).validate with
        | .ok _ => .ok (base.override env)
        | .error fault => .error (.domain fault) := by
  unfold load stored
  -- Which settings are valid does not matter here.
  generalize Settings.validate = check
  cases d.seek path with
  | error fault => rfl
  | ok node =>
    cases node with
    | none => rfl
    | some n => cases loadFile shown path d <;> rfl

/-- The settings are what the file says over the defaults, under the environment. -/
theorem load_eq_ok_iff {s : Settings} :
    load shown path d env = .ok s ↔ ∃ said, FileSays path d said ∧
      s = (said.over default).override env ∧ s.validate = .ok () := by
  constructor
  · intro h
    cases hbase : stored shown path d with
    | error fault =>
      rw [load_eq, hbase] at h
      cases h
    | ok base =>
      obtain ⟨said, hsays, rfl⟩ := stored_eq_ok_iff.mp hbase
      rw [load_eq, hbase] at h
      dsimp only at h
      split at h
      · rename_i hvalid
        cases h
        exact ⟨said, hsays, rfl, hvalid⟩
      · cases h
  · rintro ⟨said, hsays, rfl, hvalid⟩
    rw [load_eq, stored_eq_ok_iff.mpr ⟨said, hsays, rfl⟩]
    dsimp only
    rw [hvalid]

end Settings

namespace CommandLine

/-! ## The layers -/

/-- The settings of a run, each from the first layer that says it: the option, the variable if it
is set to more than blanks, without the blanks at its ends, the file, the default. -/
def layered (options : GivenSettings) (env : Environment) (said : GivenSettings) : Settings where
  logLevel := ((options.logLevel.or (Settings.filled env.logLevel)).or said.logLevel).getD
    Settings.default.logLevel
  serverDomain := ((options.serverDomain.or (Settings.filled env.serverDomain)).or
    said.serverDomain).getD Settings.default.serverDomain
  appDomain := ((options.appDomain.or (Settings.filled env.appDomain)).or said.appDomain).getD
    Settings.default.appDomain

/-- A run has the settings of its layers if the file is absent or decodes and their domains are
valid, and has none otherwise. -/
def FollowsLayers (loaded : Except SettingsFault Settings) (options : GivenSettings)
    (env : Environment) (path : FilePath) (d : Disk) : Prop :=
  ∀ s, loaded = .ok s ↔
    ∃ said, Settings.FileSays path d said ∧ s = layered options env said ∧ s.validate = .ok ()

/-- An option that is given, or whose variable, if it is set, is neither blank nor blank at its
ends. -/
def Unpadded (given? value? : Option String) : Prop :=
  given? = none → ∀ v, value? = some v → v ≠ "" ∧ Text.trim v = v

/-- The settings that are given as options, with the variables that stand in for missing ones. -/
def GivenSettings.withVariables (g : GivenSettings) (env : Environment) : GivenSettings :=
  { g with
    serverDomain := g.serverDomain.or env.serverDomain
    appDomain := g.appDomain.or env.appDomain }

theorem Arguments.ofSides_eq (env : Environment) (outer inner : Given) (command : Command) :
    ofSides env outer inner command =
      { ofSides {} outer inner command with
        settings := (ofSides {} outer inner command).settings.withVariables env } := by
  simp [ofSides, GivenSettings.withVariables]

theorem Arguments.read_eq (env : Environment) (line : List String) :
    read env line = (read {} line).map fun a =>
      { a with settings := a.settings.withVariables env } := by
  have hbind : ∀ (x : Except Halt Given) {f g : Given → Except Halt Arguments},
      (∀ given, f given = (g given).map fun a =>
        { a with settings := a.settings.withVariables env }) →
      (x >>= f) = (x >>= g).map fun a =>
        { a with settings := a.settings.withVariables env } := by
    intro x f g h
    cases x with
    | error halt => rfl
    | ok given => exact h given
  unfold read
  apply hbind
  intro outer
  cases outer.operands with
  | nil => rfl
  | cons name rest =>
    dsimp only
    cases Verb.ofText? name with
    | none => rfl
    | some verb =>
      cases verb with
      | help => rfl
      | _ =>
        apply hbind
        intro inner
        split
        · rfl
        · next command _ => exact congrArg Except.ok (ofSides_eq env outer inner command)

/-! ## One domain -/

def Accepted (domain : String) : Prop := ∃ origin, domainOrigin domain = .ok origin

theorem accepted_trim_iff {domain : String} : Accepted (Text.trim domain) ↔ Accepted domain := by
  unfold Accepted domainOrigin
  rw [Text.trim_trim]

theorem not_accepted_of_blank {domain : String} (h : Text.trim domain = "") :
    ¬ Accepted domain := by
  rintro ⟨origin, ho⟩
  unfold domainOrigin at ho
  rw [h] at ho
  cases ho

theorem validate_eq_ok_iff {s : Settings} :
    s.validate = .ok () ↔ Accepted s.serverDomain ∧ Accepted s.appDomain := by
  unfold Settings.validate Settings.serverOrigin Settings.appOrigin Accepted
  cases domainOrigin s.serverDomain with
  | error fault => simp [Bind.bind, Except.bind]
  | ok server =>
    cases domainOrigin s.appDomain with
    | error fault => simp [Bind.bind, Except.bind]
    | ok app => simp [Bind.bind, Except.bind]; rfl

theorem filled_of_blank {v : String} (h : Text.trim v = "") : Settings.filled (some v) = none := by
  simp [Settings.filled, h]

theorem filled_of_ne {v : String} (h : Text.trim v ≠ "") :
    Settings.filled (some v) = some (Text.trim v) := by
  simp [Settings.filled, h]

section Domain

variable {given? value? : Option String} {base : String}

theorem accepted_layered
    (h : Accepted ((given?.or value?).getD ((Settings.filled value?).getD base))) :
    Accepted (given?.getD ((Settings.filled value?).getD base)) := by
  cases given? with
  | some domain => exact h
  | none =>
    cases value? with
    | none => exact h
    | some v =>
      have hv : Accepted v := h
      have hne : Text.trim v ≠ "" := fun hblank => not_accepted_of_blank hblank hv
      rw [filled_of_ne hne]
      exact accepted_trim_iff.mpr hv

/-- A domain that is accepted as its layers have it is taken as they have it exactly if the
variable is unpadded. -/
theorem taken_eq_layered_iff (h : Accepted (given?.getD ((Settings.filled value?).getD base))) :
    (given?.or value?).getD ((Settings.filled value?).getD base) =
      given?.getD ((Settings.filled value?).getD base) ↔ Unpadded given? value? := by
  cases given? with
  | some domain =>
    constructor
    · intro _ hnone
      cases hnone
    · intro _
      rfl
  | none =>
    cases value? with
    | none =>
      constructor
      · intro _ _ v hv
        cases hv
      · intro _
        rfl
    | some v =>
      by_cases hblank : Text.trim v = ""
      · rw [filled_of_blank hblank] at h ⊢
        constructor
        · intro heq
          have heq : v = base := heq
          exact absurd h (heq ▸ not_accepted_of_blank hblank)
        · intro hunpadded
          obtain ⟨hne, htrim⟩ := hunpadded rfl v rfl
          exact absurd (htrim.symm.trans hblank) hne
      · rw [filled_of_ne hblank]
        constructor
        · intro heq _ v' hv'
          cases hv'
          have heq : v = Text.trim v := heq
          refine ⟨?_, heq.symm⟩
          rintro rfl
          exact hblank rfl
        · intro hunpadded
          exact (hunpadded rfl v rfl).2.symm

end Domain

/-! ## A run -/

section Run

variable {shown : String} {path : FilePath} {d : Disk} {env : Environment} {g : GivenSettings}

theorem layered_eq (options : GivenSettings) (env : Environment) (said : GivenSettings) :
    layered options env said = options.over ((said.over Settings.default).override env) := by
  have hfield : ∀ (o v f : Option String) (default : String),
      ((o.or v).or f).getD default = o.getD (v.getD (f.getD default)) := by
    intro o v f default
    cases o <;> cases v <;> rfl
  simp only [layered, hfield, GivenSettings.over, Settings.override]

theorem GivenSettings.load_eq : g.load shown path d env =
    match Settings.load shown path d env with
    | .error fault => .error fault
    | .ok base =>
      match (g.over base).validate with
      | .ok _ => .ok (g.over base)
      | .error fault => .error (.domain fault) := by
  unfold GivenSettings.load
  generalize Settings.validate = check
  cases Settings.load shown path d env <;> rfl

theorem GivenSettings.load_eq_ok_iff {s : Settings} :
    g.load shown path d env = .ok s ↔ ∃ said, Settings.FileSays path d said ∧
      ((said.over Settings.default).override env).validate = .ok () ∧
      s = g.over ((said.over Settings.default).override env) ∧ s.validate = .ok () := by
  constructor
  · intro h
    rw [GivenSettings.load_eq] at h
    cases hbase : Settings.load shown path d env with
    | error fault =>
      rw [hbase] at h
      cases h
    | ok base =>
      obtain ⟨said, hsays, rfl, hlower⟩ := Settings.load_eq_ok_iff.mp hbase
      rw [hbase] at h
      dsimp only at h
      split at h
      · rename_i hvalid
        cases h
        exact ⟨said, hsays, hlower, rfl, hvalid⟩
      · cases h
  · rintro ⟨said, hsays, hlower, rfl, hvalid⟩
    rw [GivenSettings.load_eq, Settings.load_eq_ok_iff.mpr ⟨said, hsays, rfl, hlower⟩]
    dsimp only
    rw [hvalid]

theorem validate_layered {said : GivenSettings}
    (h : ((g.withVariables env).over
      ((said.over Settings.default).override env)).validate = .ok ()) :
    (layered g env said).validate = .ok () := by
  obtain ⟨hserver, happ⟩ := validate_eq_ok_iff.mp h
  rw [layered_eq]
  exact validate_eq_ok_iff.mpr ⟨accepted_layered hserver, accepted_layered happ⟩

/-- Settings that are valid as their layers have them are taken so exactly if the variables of the
domains are unpadded. -/
theorem taken_eq_iff {said : GivenSettings} (h : (layered g env said).validate = .ok ()) :
    (g.withVariables env).over ((said.over Settings.default).override env) =
      layered g env said ↔
    Unpadded g.serverDomain env.serverDomain ∧ Unpadded g.appDomain env.appDomain := by
  rw [layered_eq] at h ⊢
  obtain ⟨hserver, happ⟩ := validate_eq_ok_iff.mp h
  rw [← taken_eq_layered_iff hserver, ← taken_eq_layered_iff happ]
  constructor
  · intro heq
    exact ⟨congrArg Settings.serverDomain heq, congrArg Settings.appDomain heq⟩
  · rintro ⟨hserver, happ⟩
    exact Settings.eq_of_fields rfl hserver happ

theorem followsLayers_iff :
    FollowsLayers ((g.withVariables env).load shown path d env) g env path d ↔
      ∀ said, Settings.FileSays path d said → (layered g env said).validate = .ok () →
        ((said.over Settings.default).override env).validate = .ok () ∧
        Unpadded g.serverDomain env.serverDomain ∧ Unpadded g.appDomain env.appDomain := by
  constructor
  · intro hfollows said hsays hvalid
    obtain ⟨said', hsays', hlower, htaken, -⟩ :=
      GivenSettings.load_eq_ok_iff.mp ((hfollows _).mpr ⟨said, hsays, rfl, hvalid⟩)
    cases hsays.unique hsays'
    exact ⟨hlower, (taken_eq_iff hvalid).mp htaken.symm⟩
  · intro h s
    rw [GivenSettings.load_eq_ok_iff]
    constructor
    · rintro ⟨said, hsays, -, rfl, htaken⟩
      have hvalid := validate_layered htaken
      have heq := (taken_eq_iff hvalid).mpr (h said hsays hvalid).2
      exact ⟨said, hsays, heq, htaken⟩
    · rintro ⟨said, hsays, rfl, hvalid⟩
      obtain ⟨hlower, hunpadded⟩ := h said hsays hvalid
      exact ⟨said, hsays, hlower, ((taken_eq_iff hvalid).mpr hunpadded).symm, hvalid⟩

theorem load_of_no_options_iff :
    (({} : GivenSettings).withVariables env).load shown path d env =
        Settings.load shown path d env ↔
      ∀ s, Settings.load shown path d env = .ok s →
        Unpadded none env.serverDomain ∧ Unpadded none env.appDomain := by
  have hlayers : ∀ said : GivenSettings, layered {} env said =
      (said.over Settings.default).override env := fun said => layered_eq {} env said
  constructor
  · intro heq s hs
    obtain ⟨said, hsays, hlower, hvalid⟩ := Settings.load_eq_ok_iff.mp hs
    obtain ⟨said', hsays', -, htaken, -⟩ := GivenSettings.load_eq_ok_iff.mp (heq.trans hs)
    cases hsays.unique hsays'
    have hlayered : s = layered {} env said := hlower.trans (hlayers said).symm
    rw [hlayered] at hvalid
    exact (taken_eq_iff hvalid).mp (htaken.symm.trans hlayered)
  · intro h
    cases hbase : Settings.load shown path d env with
    | error fault =>
      rw [GivenSettings.load_eq, hbase]
    | ok s =>
      obtain ⟨said, hsays, rfl, hvalid⟩ := Settings.load_eq_ok_iff.mp hbase
      have hlayered := hvalid
      rw [← hlayers said] at hlayered
      have htaken := (taken_eq_iff hlayered).mpr (h _ hbase)
      rw [hlayers said] at htaken
      exact GivenSettings.load_eq_ok_iff.mpr ⟨said, hsays, hvalid, htaken.symm, hvalid⟩

/-- The settings of a run follow the layers exactly if, whenever the settings of the layers are
valid, those below the options are valid, too, and a variable that stands in for a domain that is
not given as an option is neither blank nor blank at its ends. With no option the settings are those
of the file and the environment, unless such a variable is in the way. -/
theorem follows_layers_iff {line : List String} {given : Arguments}
    (hline : Arguments.read {} line = .ok given) (shown : String) (path : FilePath) (d : Disk)
    (env : Environment) :
    ∃ a, Arguments.read env line = .ok a ∧
      (FollowsLayers (a.settings.load shown path d env) given.settings env path d ↔
        ∀ said, Settings.FileSays path d said →
          (layered given.settings env said).validate = .ok () →
          ((said.over Settings.default).override env).validate = .ok () ∧
          Unpadded given.settings.serverDomain env.serverDomain ∧
          Unpadded given.settings.appDomain env.appDomain) ∧
      (given.settings = {} →
        (a.settings.load shown path d env = Settings.load shown path d env ↔
          ∀ s, Settings.load shown path d env = .ok s →
            Unpadded none env.serverDomain ∧ Unpadded none env.appDomain)) := by
  have hread : Arguments.read env line =
      .ok { given with settings := given.settings.withVariables env } := by
    rw [Arguments.read_eq, hline]
    rfl
  refine ⟨_, hread, followsLayers_iff, ?_⟩
  intro hnone
  rw [hnone]
  exact load_of_no_options_iff

end Run

def diskOf (content : String) : Disk where
  nodes := [(["config.json"], .file (Bytes.ofText content) false)]

/-- Every layer says something: an option the level, a variable the client's domain, the file the
node's, and a variable that counts for nothing the level once more. -/
theorem follows_layers_of_unpadded :
    let env : Environment := { logLevel := some "trace", appDomain := some "app.example" }
    let d := diskOf "\x7b\"server_domain\":\"node.example\"\x7d"
    ∃ a, Arguments.read env ["--log-level", "debug", "status"] = .ok a ∧
      a.settings.load "config.json" ["config.json"] d env =
        .ok ⟨"debug", "node.example", "app.example"⟩ := by
  intro env d
  have hsays : Settings.FileSays ["config.json"] d { serverDomain := some "node.example" } := by
    refine .content rfl rfl ?_ (Settings.decodeUnder_of_two ?_ ?_)
    all_goals decide +kernel
  have hline : Arguments.read {} ["--log-level", "debug", "status"] =
      .ok ⟨.status, .text, { logLevel := some "debug" }, false⟩ := by decide +kernel
  obtain ⟨a, ha, hfollows, -⟩ := follows_layers_iff hline "config.json" ["config.json"] d env
  have hcondition := hfollows.mpr ?_
  · exact ⟨a, ha, (hcondition _).mpr ⟨_, hsays, by decide +kernel, by decide +kernel⟩⟩
  · intro said hsaid _
    cases hsays.unique hsaid
    refine ⟨by decide +kernel, fun _ v hv => ?_, fun _ v hv => ?_⟩
    · cases hv
    · cases hv
      decide +kernel

/-- A bad domain in the file fails a run although an option stands over it, a blank variable fails a
run although it counts for nothing, and a variable is taken with its blanks. -/
theorem not_follows_layers :
    let bad := diskOf "\x7b\"server_domain\":\"bad/x\"\x7d"
    let blank : Environment := { appDomain := some "" }
    let padded : Environment := { serverDomain := some " node.example" }
    (∃ a, Arguments.read {} ["--server-domain", "node.example", "status"] = .ok a ∧
      a.settings.load "config.json" ["config.json"] bad {} =
        .error (.domain ⟨"bad/x", .notBare⟩) ∧
      ¬ FollowsLayers (a.settings.load "config.json" ["config.json"] bad {}) a.settings {}
        ["config.json"] bad) ∧
    (∃ a, Arguments.read blank ["status"] = .ok a ∧
      a.settings.load "config.json" ["config.json"] {} blank = .error (.domain ⟨"", .empty⟩) ∧
      ¬ FollowsLayers (a.settings.load "config.json" ["config.json"] {} blank) {} blank
        ["config.json"] {}) ∧
    ∃ a, Arguments.read padded ["status"] = .ok a ∧
      (a.settings.load "config.json" ["config.json"] {} padded).map Settings.serverDomain =
        .ok " node.example" ∧
      ¬ FollowsLayers (a.settings.load "config.json" ["config.json"] {} padded) {} padded
        ["config.json"] {} := by
  intro bad blank padded
  have hbad : Settings.FileSays ["config.json"] bad { serverDomain := some "bad/x" } := by
    refine .content rfl rfl ?_ (Settings.decodeUnder_of_two ?_ ?_)
    all_goals decide +kernel
  have hnothing : Settings.FileSays ["config.json"] {} {} := .nothing fun _ h => by cases h
  refine ⟨⟨_, rfl, ?_, fun h => ?_⟩, ⟨_, rfl, ?_, fun h => ?_⟩, _, rfl, ?_, fun h => ?_⟩
  · decide +kernel
  · have hloaded := (h _).mpr ⟨_, hbad, rfl, by decide +kernel⟩
    revert hloaded
    decide +kernel
  · decide +kernel
  · have hloaded := (h _).mpr ⟨_, hnothing, rfl, by decide +kernel⟩
    revert hloaded
    decide +kernel
  · decide +kernel
  · have hloaded := (h _).mpr ⟨_, hnothing, rfl, by decide +kernel⟩
    revert hloaded
    decide +kernel

end CommandLine

end SignIn
