import Restripe.Text.Utf8

/-!
# Machines that read tokens

A text is cut into tokens by a machine that reads one character at a time.  A character may complete
tokens, and the end of the text completes the last one; what the machine cannot read has no tokens.
-/

namespace Restripe

/-- A machine that reads tokens. -/
structure Scanner (Mode Token : Type) where
  /-- Read one character: the tokens that it completes, and where it leaves the machine. -/
  step : Mode → Char → Option (List Token × Mode)
  /-- End the text: the token that was being read, if it is complete. -/
  finish : Mode → Option (List Token)

namespace Scanner

variable {Mode Token : Type} (scanner : Scanner Mode Token)

/-- The tokens of a text read from `mode` on. -/
def scanFrom : Mode → Text → Option (List Token)
  | mode, [] => scanner.finish mode
  | mode, char :: rest => do
      let (tokens, next) ← scanner.step mode char
      return tokens ++ (← scanFrom next rest)

variable {scanner}

theorem scanFrom_nil (mode : Mode) : scanner.scanFrom mode [] = scanner.finish mode :=
  rfl

theorem scanFrom_cons (mode : Mode) (char : Char) (rest : Text) :
    scanner.scanFrom mode (char :: rest) =
      (scanner.step mode char).bind fun next =>
        (scanner.scanFrom next.2 rest).map (next.1 ++ ·) := by
  simp only [scanFrom, Option.bind_eq_bind]
  cases scanner.step mode char with
  | none => rfl
  | some next =>
      simp only [Option.bind_some]
      cases scanner.scanFrom next.2 rest <;> rfl

theorem scanFrom_of_step (tokens : List Token) (next : Mode) {mode : Mode} {char : Char}
    (step : scanner.step mode char = some (tokens, next)) (rest : Text) :
    scanner.scanFrom mode (char :: rest) = (scanner.scanFrom next rest).map (tokens ++ ·) := by
  rw [scanFrom_cons, step, Option.bind_some]

theorem scanFrom_of_mark {token : Token} {mode next : Mode} {mark : Char}
    (step : scanner.step mode mark = some ([token], next)) (rest : Text) :
    scanner.scanFrom mode (mark :: rest) = (scanner.scanFrom next rest).map (token :: ·) :=
  scanFrom_of_step [token] next step rest

/-- A character that completes no token only changes the mode. -/
theorem scanFrom_of_silent (next : Mode) {mode : Mode} {char : Char}
    (step : scanner.step mode char = some ([], next)) (rest : Text) :
    scanner.scanFrom mode (char :: rest) = scanner.scanFrom next rest := by
  rw [scanFrom_of_step [] next step]
  exact Option.map_id_apply

theorem scanFrom_congr {left right : Mode} {char : Char}
    (step : scanner.step left char = scanner.step right char) (rest : Text) :
    scanner.scanFrom left (char :: rest) = scanner.scanFrom right (char :: rest) := by
  rw [scanFrom_cons, scanFrom_cons, step]

/-- Where the spelling of each character is read as one value, that of a text is read as the values
of its characters; a mode keeps what it has read, last first. -/
theorem scanFrom_flatMap {Value : Type} (mode : List Value → Mode) (value : Char → Value)
    {spell : Char → Text} {text : Text}
    (reads : ∀ char ∈ text, ∀ read rest, scanner.scanFrom (mode read) (spell char ++ rest) =
      scanner.scanFrom (mode (value char :: read)) rest) (read : List Value) (rest : Text) :
    scanner.scanFrom (mode read) (text.flatMap spell ++ rest) =
      scanner.scanFrom (mode ((text.map value).reverse ++ read)) rest := by
  induction text generalizing read with
  | nil => rfl
  | cons char text ih =>
      have others := ih fun other member => reads other (List.mem_cons_of_mem char member)
      rw [List.flatMap_cons, List.append_assoc, reads char List.mem_cons_self, others]
      simp

/-- Characters that a mode keeps as they are. -/
theorem scanFrom_append_of_kept (mode : Text → Mode) {text : Text}
    (kept : ∀ char ∈ text, ∀ read,
      scanner.step (mode read) char = some ([], mode (char :: read))) (read rest : Text) :
    scanner.scanFrom (mode read) (text ++ rest) =
      scanner.scanFrom (mode (text.reverse ++ read)) rest := by
  have each : ∀ char ∈ text, ∀ read rest, scanner.scanFrom (mode read) ([char] ++ rest) =
      scanner.scanFrom (mode (id char :: read)) rest := by
    intro char member read rest
    exact scanFrom_of_silent _ (kept char member read) rest
  have followed := scanFrom_flatMap mode id each read rest
  rwa [List.flatMap_singleton', List.map_id] at followed

end Scanner

end Restripe
