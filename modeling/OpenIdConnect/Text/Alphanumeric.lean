/-!
# Random texts

Texts of letters and digits drawn from a generator, as states and nonces are made of.
-/

namespace OpenIdConnect.Text

namespace Alphanumeric

/-- The ASCII letters and digits. -/
def alphabet : List Char :=
  "ABCDEFGHIJKLMNOPQRSTUVWXYZabcdefghijklmnopqrstuvwxyz0123456789".toList

/-- Is the character an ASCII letter or digit? -/
def holds (c : Char) : Bool :=
  alphabet.contains c

/-- Characters drawn one after another, and the generator that is left. -/
def draw : Nat → StdGen → List Char × StdGen
  | 0, g => ([], g)
  | n + 1, g =>
    let (number, g) := stdNext g
    let (rest, g) := draw n g
    (alphabet.getD (number % alphabet.length) 'A' :: rest, g)

/-- The length of a fresh state. -/
def stateLength : Nat := 32

/-- The length of a fresh nonce. -/
def nonceLength : Nat := 16

end Alphanumeric

end OpenIdConnect.Text
