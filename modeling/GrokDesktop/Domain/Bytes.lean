import GrokDesktop.Domain.Basic

/-!
# Bytes of texts and numbers

Different texts have different bytes, and so do different numbers of one width.
-/

namespace GrokDesktop

open List

end GrokDesktop
