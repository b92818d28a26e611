import RoqPython.Lib.Ordered

/-!
# What a Client Subscribes To

`client::Config` tells the native client which accounts and symbols to subscribe to. It copies
a Python set and a Python dictionary of sets into ordered containers of C++, and the native
client asks it to `dispatch` them.

## Main results

* `Config.dispatch_eq_iff`: what the native client is told is a matter of which accounts and
  symbols were configured, not of the order in which Python iterates over them.
-/

namespace RoqPython.Client

variable {α S : Type} [LinearOrder S]

/-- `client::Config`, with settings of type `α`. `S` is `std::string` with its order. -/
structure Config (α S : Type) [LinearOrder S] where
  settings : α
  accounts : Finset S
  symbols : Finmap fun _ : S => Finset S

/-- What the handler of `Config::dispatch` is called with. -/
inductive Config.Call (α S : Type)
  | settings (settings : α)
  | account (regex : S)
  | symbol (regex exchange : S)

/-- `pybind11::init` of `client::Config`. The set of accounts, the dictionary of symbols and
the sets in it are given as the lists that Python iterates over. Keys that are different in
Python may be one string in C++; the dictionary is then copied entry by entry with `emplace`. -/
def Config.init (settings : α) (accounts : List S) (symbols : List (S × List S)) :
    Config α S where
  settings
  accounts := accounts.toFinset
  symbols := Ordered.ofEntries (symbols.map fun (exchange, regexes) =>
    (exchange, regexes.toFinset))

/-- `Config::dispatch`. -/
def Config.dispatch (self : Config α S) : List (Config.Call α S) :=
  .settings self.settings :: (self.accounts.sort.map .account ++
    self.symbols.keys.sort.flatMap fun exchange =>
      ((self.symbols.lookup exchange).getD ∅).sort.map fun regex => .symbol regex exchange)

/-- The regexes that were configured for an exchange. -/
def regexes (symbols : List (S × List S)) (exchange : S) : List S :=
  (symbols.lookup exchange).getD []

/-- The symbols of a configuration are the configured ones. -/
theorem mem_symbols_init {settings : α} {accounts : List S} {symbols : List (S × List S)}
    {exchange regex : S} :
    regex ∈ (((Config.init settings accounts symbols).symbols.lookup exchange).getD ∅) ↔
      regex ∈ regexes symbols exchange := by
  have hlookup : (symbols.map fun (exchange, regexes) =>
      (exchange, regexes.toFinset)).lookup exchange =
        (symbols.lookup exchange).map List.toFinset := by
    induction symbols with
    | nil => rfl
    | cons entry symbols ih =>
        rw [List.map_cons, List.lookup_cons, List.lookup_cons, ih]
        cases exchange == entry.1 <;> rfl
  rw [Config.init, Ordered.lookup_ofEntries, hlookup, regexes]
  cases symbols.lookup exchange <;> simp

/-- The account that a call names. -/
def Config.Call.account? : Config.Call α S → Option S
  | .account regex => some regex
  | _ => none

/-- The exchange and the symbol that a call names. -/
def Config.Call.symbol? : Config.Call α S → Option (S × S)
  | .symbol regex exchange => some (exchange, regex)
  | _ => none

/-- The two loops over the symbols are one over the pairs of the map. -/
theorem Config.dispatch_eq (self : Config α S) :
    self.dispatch = .settings self.settings :: (self.accounts.sort.map .account ++
      (Ordered.pairs self.symbols).map fun pair => .symbol pair.2 pair.1) := by
  rw [dispatch, Ordered.pairs, List.map_flatMap]
  simp only [List.map_map, Function.comp_def]

theorem Config.accounts_dispatch (self : Config α S) :
    self.dispatch.filterMap Call.account? = self.accounts.sort := by
  rw [dispatch_eq, List.filterMap_cons, List.filterMap_append, List.filterMap_map,
    List.filterMap_map]
  simp [Function.comp_def, Call.account?]

theorem Config.symbols_dispatch (self : Config α S) :
    self.dispatch.filterMap Call.symbol? = Ordered.pairs self.symbols := by
  rw [dispatch_eq, List.filterMap_cons, List.filterMap_append, List.filterMap_map,
    List.filterMap_map]
  simp [Function.comp_def, Call.symbol?]

/-- Two configurations dispatch alike when they have the same settings, the same accounts and
the same symbols for each exchange. -/
theorem Config.dispatch_eq_iff_of_fields {self other : Config α S} :
    self.dispatch = other.dispatch ↔
      self.settings = other.settings ∧ self.accounts = other.accounts ∧
        Ordered.pairs self.symbols = Ordered.pairs other.symbols := by
  constructor
  · intro h
    refine ⟨?_, ?_, ?_⟩
    · injection h with hhead
      injection hhead
    · have hsort : self.accounts.sort = other.accounts.sort := by
        rw [← self.accounts_dispatch, h, accounts_dispatch]
      rw [← Finset.sort_toFinset self.accounts (· ≤ ·), hsort, Finset.sort_toFinset]
    · rw [← self.symbols_dispatch, h, symbols_dispatch]
  · rintro ⟨hsettings, haccounts, hsymbols⟩
    rw [dispatch_eq, dispatch_eq, hsettings, haccounts, hsymbols]

/-- **Iteration order.** Two configurations tell the native client the same, in the same order,
exactly when the settings are the same and the same accounts and the same symbols for each
exchange were configured, in whatever order and however often. -/
theorem Config.dispatch_eq_iff (settings settings' : α) (accounts accounts' : List S)
    (symbols symbols' : List (S × List S)) :
    (Config.init settings accounts symbols).dispatch =
        (Config.init settings' accounts' symbols').dispatch ↔
      settings = settings' ∧ (∀ regex, regex ∈ accounts ↔ regex ∈ accounts') ∧
        ∀ exchange regex, regex ∈ regexes symbols exchange ↔
          regex ∈ regexes symbols' exchange := by
  rw [dispatch_eq_iff_of_fields, Ordered.pairs_eq_iff]
  refine and_congr_right fun _ => and_congr ?_ ?_
  · rw [Finset.ext_iff]
    simp only [init, List.mem_toFinset]
  · simp only [mem_symbols_init]

end RoqPython.Client
