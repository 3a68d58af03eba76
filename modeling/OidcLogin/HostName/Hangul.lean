namespace OidcLogin.HostName.Hangul

def firstSyllable : Nat := 0xAC00
def firstLeading : Nat := 0x1100
def firstVowel : Nat := 0x1161
-- The place before the first trailing consonant, which stands for none.
def noTrailing : Nat := 0x11A7

def leadings : Nat := 19
def vowels : Nat := 21
def trailings : Nat := 28

def isSyllable (n : Nat) : Prop :=
  firstSyllable ≤ n ∧ n < firstSyllable + leadings * vowels * trailings

instance (n : Nat) : Decidable (isSyllable n) := inferInstanceAs (Decidable (_ ∧ _))

-- The syllable of a leading consonant and a vowel, or of such a syllable and a trailing consonant.
def compose? (before last : Nat) : Option Nat :=
  if firstLeading ≤ before ∧ before < firstLeading + leadings
      ∧ firstVowel ≤ last ∧ last < firstVowel + vowels then
    some (firstSyllable + ((before - firstLeading) * vowels + (last - firstVowel)) * trailings)
  else if isSyllable before ∧ (before - firstSyllable) % trailings = 0
      ∧ noTrailing < last ∧ last < noTrailing + trailings then
    some (before + (last - noTrailing))
  else none

def decompose? (syllable : Nat) : Option (Nat × Nat) :=
  if isSyllable syllable then
    let index := syllable - firstSyllable
    if index % trailings = 0 then
      some (firstLeading + index / trailings / vowels, firstVowel + index / trailings % vowels)
    else some (syllable - index % trailings, noTrailing + index % trailings)
  else none

end OidcLogin.HostName.Hangul
