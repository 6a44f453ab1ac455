import SignIn.Proofs.Session.Story
import SignIn.Proofs.Url.Origin

/-!
# Where requests go

A request is sent once if its target lands on the node, and otherwise not at all. A target lands on
the node if it resolves to a URL with the scheme, the host and the port of the node, or to a blob
that carries such a URL.
-/

namespace SignIn.Gateway

def resourceRequest (r : Request) (url : Url) : ResourceRequest :=
  ⟨r.method, url, mark r.headers, r.body⟩

theorem prepare_eq (origin : Url) (r : Request) :
    prepare origin r = (resolve origin r.target).map (resourceRequest r) := by
  unfold prepare
  cases resolve origin r.target <;> rfl

section Noting

variable {m : Type → Type} [Monad m] [LawfulMonad m] {node : Url}
  (send : ResourceRequest → m (Except AuthFault Response)) {r : Request}

omit [LawfulMonad m] in
theorem run_dispatch_of_error {fault : AuthFault} (h : resolve node r.target = .error fault)
    (sent : List ResourceRequest) :
    (dispatch node (noting send) r).run sent = pure (.error fault, sent) := by
  unfold dispatch
  rw [prepare_eq, h]
  rfl

theorem run_dispatch_of_ok {url : Url} (h : resolve node r.target = .ok url)
    (sent : List ResourceRequest) :
    (dispatch node (noting send) r).run sent =
      (fun answer => (interpret answer, sent ++ [resourceRequest r url])) <$>
        send (resourceRequest r url) := by
  unfold dispatch
  rw [prepare_eq, h]
  simp [Except.map, noting]

/-- A request is given to the client exactly once, and its answer is taken for what it means, if
the target lands on the node. If the target does not resolve or does not land on the node, the
client is not called and a fault tells so. -/
theorem dispatch_sends_to_node (hnode : node.scheme = "http" ∨ node.scheme = "https")
    (r : Request) (sent : List ResourceRequest) :
    (∀ fault, node.join r.target = .error fault →
      (dispatch node (noting send) r).run sent = pure (.error (.url fault), sent)) ∧
    ∀ url, node.join r.target = .ok url →
      (url.LandsOn node → (dispatch node (noting send) r).run sent =
        (fun answer => (interpret answer, sent ++ [resourceRequest r url])) <$>
          send (resourceRequest r url)) ∧
      (¬ url.LandsOn node → (dispatch node (noting send) r).run sent =
        pure (.error (.foreignOrigin url.origin.text), sent)) := by
  refine ⟨fun fault hjoin => ?_, fun url hjoin => ⟨fun hlands => ?_, fun hforeign => ?_⟩⟩
  · exact run_dispatch_of_error send (by rw [resolve, hjoin]) sent
  · rw [← Url.origin_same_iff hnode] at hlands
    exact run_dispatch_of_ok send (by simp only [resolve, hjoin, if_pos hlands]) sent
  · rw [← Url.origin_same_iff hnode] at hforeign
    exact run_dispatch_of_error send (by simp only [resolve, hjoin, if_neg hforeign]) sent

end Noting

set_option maxRecDepth 10000 in
/-- A path lands on the node, and a URL of another host is refused. -/
theorem dispatch_sends_path_to_node :
    (dispatch Endpoints.sample.serverOrigin (noting (m := Id) fun _ => .ok ⟨200, [], []⟩)
        { method := .get, target := "/a" }).run [] =
      (.ok ⟨200, [], []⟩,
        [resourceRequest { method := .get, target := "/a" } (.secure "node.example" ["a"])]) ∧
    (dispatch Endpoints.sample.serverOrigin (noting (m := Id) fun _ => .ok ⟨200, [], []⟩)
        { method := .get, target := "//other.example/a" }).run [] =
      (.error (.foreignOrigin (Url.secure "other.example" ["a"]).origin.text), []) := by
  have hnode : Endpoints.sample.serverOrigin.scheme = "http" ∨
      Endpoints.sample.serverOrigin.scheme = "https" := .inr rfl
  constructor
  · have hlands : (Url.secure "node.example" ["a"]).LandsOn Endpoints.sample.serverOrigin :=
      ⟨_, .self _, rfl, ⟨_, rfl, rfl⟩, rfl⟩
    have hjoin : Endpoints.sample.serverOrigin.join "/a" = .ok (.secure "node.example" ["a"]) := rfl
    have hsends := dispatch_sends_to_node (m := Id) (fun _ => .ok ⟨200, [], []⟩) hnode
      { method := .get, target := "/a" } []
    exact (hsends.2 _ hjoin).1 hlands
  · have hforeign : ¬ (Url.secure "other.example" ["a"]).LandsOn Endpoints.sample.serverOrigin := by
      rintro ⟨v, hcarries, hsite⟩
      obtain rfl := hcarries.eq_of_not_blob (by decide)
      obtain ⟨host, hother, hown⟩ := hsite.host
      have hhost := hother.trans hown.symm
      revert hhost
      decide
    have hjoin : Endpoints.sample.serverOrigin.join "//other.example/a" =
        .ok (.secure "other.example" ["a"]) := rfl
    have hsends := dispatch_sends_to_node (m := Id) (fun _ => .ok ⟨200, [], []⟩) hnode
      { method := .get, target := "//other.example/a" } []
    exact (hsends.2 _ hjoin).2 hforeign

set_option maxRecDepth 10000 in
/-- A blob that carries a URL of the node is sent, though its own scheme is not that of the node. -/
theorem not_sameSite_of_dispatched_blob :
    ∃ q, ((dispatch Endpoints.sample.serverOrigin (noting (m := Id) fun _ => .ok ⟨200, [], []⟩)
        { method := .get, target := "blob:https://node.example/x" }).run []).2 = [q] ∧
      ¬ q.url.SameSite Endpoints.sample.serverOrigin := by
  have hjoin : Endpoints.sample.serverOrigin.join "blob:https://node.example/x" =
      .ok ⟨"blob", none, .plain "https://node.example/x", none, none⟩ := rfl
  have hinner : Url.parse (UrlPath.plain "https://node.example/x").text =
      .ok (.secure "node.example" ["x"]) := rfl
  have hsame : (Url.mk "blob" none (.plain "https://node.example/x") none none).origin.same
      Endpoints.sample.serverOrigin.origin :=
    (Url.origin_same_iff (.inr rfl)).mpr ⟨.secure "node.example" ["x"],
      .blob rfl hinner (.self _), rfl, ⟨_, rfl, rfl⟩, rfl⟩
  have hresolve : resolve Endpoints.sample.serverOrigin "blob:https://node.example/x" =
      .ok ⟨"blob", none, .plain "https://node.example/x", none, none⟩ := by
    rw [resolve, hjoin]
    exact if_pos hsame
  have hrun := run_dispatch_of_ok (m := Id) (fun _ => .ok ⟨200, [], []⟩)
    (r := { method := .get, target := "blob:https://node.example/x" }) hresolve []
  refine ⟨_, congrArg Prod.snd hrun, fun hsite => ?_⟩
  exact absurd hsite.scheme (by decide)

end SignIn.Gateway
