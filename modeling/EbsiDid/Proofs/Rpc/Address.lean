import EbsiDid.Proofs.Registry.Layers
import EbsiDid.Rpc.Client

set_option autoImplicit false

/-!
The address to which a client posts, from all that can say something about it: the settings, read as texts, and layers
of options over them. For each part the last that is given counts; the usual one stands in for what is missing or empty.
-/
namespace EbsiDid

namespace Settings

-- What a setting says as a text, or null for one that says nothing.
def textAt (s : Settings) (name : String) : Value :=
  match s.get? (.text name) with
  | some v => if v.isNull then .null else .text v.display
  | none => .null

theorem setting_text (s : Settings) (name : String) : RpcClient.settingText s name = .ok (s.textAt name) := by
  cases found : s.get? (.text name) <;>
    simp only [RpcClient.settingText, getText, getValue, Value.hashable, if_true, textAt, found] <;> rfl

/-! ### Settings from an environment -/

-- The value of a variable, if it counts for the settings.
def givenBy (environment : Record) (name : String) : Option Value :=
  match environment.get name with
  | .null => none
  | .text "" => none
  | v => some v

theorem environment_entries (environment : Record) : ofEnvironment environment =
    ofEntries (environmentNames.filterMap fun named =>
      (givenBy environment named.1).map fun v => (.text named.2, v)) := by
  rw [ofEnvironment]
  congr 2
  funext ⟨name, key⟩
  simp only [givenBy]
  split <;> simp [*]

section Variables

variable {environment : Record} {key : String} {names : List (String × String)}

abbrev entriesOf (environment : Record) (names : List (String × String)) : Entries Value :=
  names.filterMap fun named => (givenBy environment named.1).map fun v => (.text named.2, v)

theorem text_alike (s t : String) : (Value.text s).alike (.text t) = decide (s = t) := by
  rw [Bool.eq_iff_iff, decide_eq_true_eq]
  exact ⟨fun same => Value.text.inj (Value.alike_text same), fun same => same ▸ Value.alike_self _ rfl⟩

theorem get_unnamed (absent : key ∉ names.map Prod.snd) (entries : Entries Value) :
    Entries.get? (.text key) (entries.update (entriesOf environment names)) = entries.get? (.text key) := by
  induction names generalizing entries with
  | nil => rfl
  | cons named rest ih =>
      rw [List.map_cons, List.mem_cons, not_or] at absent
      cases given : givenBy environment named.1 with
      | none =>
          rw [entriesOf, List.filterMap_cons_none (by rw [given]; rfl)]
          exact ih absent.2 entries
      | some v =>
          have apart : (Value.text named.2).alike (.text key) = false := by
            rw [text_alike, decide_eq_false_iff_not]
            exact fun same => absent.1 same.symm
          rw [entriesOf, List.filterMap_cons_some (by rw [given]; rfl)]
          exact (ih absent.2 _).trans (Entries.get_put_other rfl rfl apart v entries)

theorem get_named (once : (names.map Prod.snd).Nodup) {name : String} (named : (name, key) ∈ names)
    {entries : Entries Value} (absent : entries.get? (.text key) = none) :
    Entries.get? (.text key) (entries.update (entriesOf environment names)) = givenBy environment name := by
  induction names generalizing entries with
  | nil => cases named
  | cons first rest ih =>
      obtain ⟨fresh, more⟩ := List.nodup_cons.mp once
      rcases List.mem_cons.mp named with rfl | later
      · cases given : givenBy environment name with
        | none =>
            rw [entriesOf, List.filterMap_cons_none (by rw [given]; rfl), ← absent]
            exact get_unnamed fresh entries
        | some v =>
            rw [entriesOf, List.filterMap_cons_some (by rw [given]; rfl)]
            exact (get_unnamed fresh _).trans (Entries.get_put_same rfl v entries)
      · cases given : givenBy environment first.1 with
        | none =>
            rw [entriesOf, List.filterMap_cons_none (by rw [given]; rfl)]
            exact ih more later absent
        | some v =>
            have apart : (Value.text first.2).alike (.text key) = false := by
              rw [text_alike, decide_eq_false_iff_not]
              rintro rfl
              exact fresh (List.mem_map.mpr ⟨_, later, rfl⟩)
            rw [entriesOf, List.filterMap_cons_some (by rw [given]; rfl)]
            exact ih more later ((Entries.get_put_other rfl rfl apart v entries).trans absent)

end Variables

theorem variable_given {environment : Record} {name : String} {v : Value} (given : givenBy environment name = some v) :
    v.isNull = false := by
  rw [givenBy] at given
  split at given <;> cases given
  rename_i unset _
  cases found : environment.get name <;> first | rfl | exact absurd found unset

theorem environment_text (environment : Record) {name key : String} (named : (name, key) ∈ environmentNames) :
    (ofEnvironment environment).textAt key =
      match givenBy environment name with
      | some v => .text v.display
      | none => .null := by
  have once : (environmentNames.map Prod.snd).Nodup := by decide
  have found : (ofEnvironment environment).get? (.text key) = givenBy environment name := by
    rw [environment_entries]
    exact get_named once named rfl
  rw [textAt, found]
  cases given : givenBy environment name with
  | none => rfl
  | some v => exact if_neg (by rw [variable_given given]; decide)

end Settings

namespace Registry

-- Layers of options over settings.
def addressOver (s : Settings) (layers : List Record) : String :=
  let chosen (setting option usual : String) : Value :=
    (lastGiven (s.textAt setting :: layers.map (Record.get option))).orElse (.text usual)
  "https://api-" ++ (chosen "ebsi.environment" "environment" defaultEnvironment).display ++ "."
    ++ (chosen "ebsi.registry_host" "registry_host" defaultHost).display ++ "/did-registry/"
    ++ (chosen "ebsi.version" "version" defaultVersion).display ++ "/jsonrpc"

-- The layers may come merged, as they do from the registrar.
theorem address_resolved (c : RpcClient) {layers : List Record} (once : ∀ options ∈ layers, options.keys.Nodup) :
    c.mutateUrl (.record (merge layers)) = .ok (addressOver c.settings layers) := by
  have given : ∀ setting : Record, setting.keys.Nodup → ∀ option, (merge [setting, merge layers]).get option =
      lastGiven (setting.get option :: layers.map (Record.get option)) := by
    intro setting settingOnce option
    rw [merge_first, get_merged (List.forall_mem_cons.mpr ⟨settingOnce, once⟩), List.map_cons]
  have read : layerOf (.record (merge layers)) = .ok (merge layers) := by
    cases merge layers <;> rfl
  rw [RpcClient.mutateUrl, Settings.setting_text, Settings.setting_text, Settings.setting_text, read]
  simp only [bind, Except.bind, pure, Except.pure]
  have once (e v h : Value) : (Record.keys [("environment", e), ("version", v), ("registry_host", h)]).Nodup := by
    simp [Record.keys]
  rw [given _ (once ..), given _ (once ..), given _ (once ..)]
  rfl

end Registry
end EbsiDid
