import SchemaDdl.Proofs.Concatenation
import SchemaDdl.Proofs.DraftCalls

namespace SchemaDdl

namespace Draft

variable {lines : List SourceLine}

end Draft

end SchemaDdl
