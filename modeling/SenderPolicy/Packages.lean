/-
  SenderPolicy.Packages — what is taken from other packages.

  The rules for public suffixes are kept up elsewhere, and so is the parser that says what could have stood in the place of
  a fault. Whoever reads a record needs both. What is proved of a record holds whatever they are.
-/

import SenderPolicy.Domain.PublicSuffix
import SenderPolicy.Term.Grammar

namespace SenderPolicy

class Packages extends SuffixRules, Expectations

end SenderPolicy
