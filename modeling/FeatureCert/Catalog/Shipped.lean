import FeatureCert.Capability
import FeatureCert.Rule

/-!
The tables that come with the program: feature flags, replacement hooks and module options of the
mbed-crypto library, with the dependency and exclusion rules of its configuration header. Violations
are reported in the order of declaration here.
-/
namespace FeatureCert.Shipped

def catalogId : String := "mbedcrypto"

def systemSupport : List Capability :=
  [
    ⟨"HAVE_ASM", .flag, .switch true, none, some "system",
      some "Use assembly code where the compiler supports asm()"⟩,
    ⟨"NO_UDBL_DIVISION", .flag, .switch false, none, some "system",
      some "Avoid double-width integer division in bignum code"⟩,
    ⟨"HAVE_SSE2", .flag, .switch false, none, some "system",
      some "CPU supports SSE2 (IA-32 only)"⟩,
    ⟨"PLATFORM_MEMORY", .flag, .switch false, none, some "system",
      some "Allow alternative calloc()/free() through the platform layer"⟩,
    ⟨"PLATFORM_NO_STD_FUNCTIONS", .flag, .switch false, none, some "system",
      some "Do not assign libc functions in the platform layer"⟩,
    ⟨"PLATFORM_EXIT_ALT", .hook, .switch false, some "PLATFORM_C", some "system", none⟩,
    ⟨"PLATFORM_FPRINTF_ALT", .hook, .switch false, some "PLATFORM_C", some "system", none⟩,
    ⟨"PLATFORM_PRINTF_ALT", .hook, .switch false, some "PLATFORM_C", some "system", none⟩,
    ⟨"PLATFORM_SNPRINTF_ALT", .hook, .switch false, some "PLATFORM_C", some "system", none⟩,
    ⟨"PLATFORM_NV_SEED_ALT", .hook, .switch false, some "PLATFORM_C", some "system", none⟩,
    ⟨"PLATFORM_SETUP_TEARDOWN_ALT", .hook, .switch false, some "PLATFORM_C", some "system", none⟩,
    ⟨"DEPRECATED_WARNING", .flag, .switch false, none, some "system",
      some "Warn when deprecated functions are used"⟩,
    ⟨"DEPRECATED_REMOVED", .flag, .switch false, none, some "system",
      some "Remove deprecated functions entirely"⟩
  ]

def moduleReplacementHooks : List Capability :=
  [
    ⟨"AES_ALT", .hook, .switch false, some "AES_C", some "alt", none⟩,
    ⟨"ARC4_ALT", .hook, .switch false, some "ARC4_C", some "alt", none⟩,
    ⟨"BLOWFISH_ALT", .hook, .switch false, some "BLOWFISH_C", some "alt", none⟩,
    ⟨"CAMELLIA_ALT", .hook, .switch false, some "CAMELLIA_C", some "alt", none⟩,
    ⟨"CCM_ALT", .hook, .switch false, some "CCM_C", some "alt", none⟩,
    ⟨"CMAC_ALT", .hook, .switch false, some "CMAC_C", some "alt", none⟩,
    ⟨"DES_ALT", .hook, .switch false, some "DES_C", some "alt", none⟩,
    ⟨"DHM_ALT", .hook, .switch false, some "DHM_C", some "alt", none⟩,
    ⟨"ECJPAKE_ALT", .hook, .switch false, some "ECJPAKE_C", some "alt", none⟩,
    ⟨"GCM_ALT", .hook, .switch false, some "GCM_C", some "alt", none⟩,
    ⟨"MD2_ALT", .hook, .switch false, some "MD2_C", some "alt", none⟩,
    ⟨"MD4_ALT", .hook, .switch false, some "MD4_C", some "alt", none⟩,
    ⟨"MD5_ALT", .hook, .switch false, some "MD5_C", some "alt", none⟩,
    ⟨"RIPEMD160_ALT", .hook, .switch false, some "RIPEMD160_C", some "alt", none⟩,
    ⟨"RSA_ALT", .hook, .switch false, some "RSA_C", some "alt", none⟩,
    ⟨"SHA1_ALT", .hook, .switch false, some "SHA1_C", some "alt", none⟩,
    ⟨"SHA256_ALT", .hook, .switch false, some "SHA256_C", some "alt", none⟩,
    ⟨"SHA512_ALT", .hook, .switch false, some "SHA512_C", some "alt", none⟩,
    ⟨"XTEA_ALT", .hook, .switch false, some "XTEA_C", some "alt", none⟩,
    ⟨"ECP_ALT", .hook, .switch false, some "ECP_C", some "alt",
      some "Replaces both ecp.c and ecp_curves.c"⟩
  ]

def functionReplacementHooks : List Capability :=
  [
    ⟨"MD2_PROCESS_ALT", .hook, .switch false, some "MD2_C", some "alt", none⟩,
    ⟨"MD4_PROCESS_ALT", .hook, .switch false, some "MD4_C", some "alt", none⟩,
    ⟨"MD5_PROCESS_ALT", .hook, .switch false, some "MD5_C", some "alt", none⟩,
    ⟨"RIPEMD160_PROCESS_ALT", .hook, .switch false, some "RIPEMD160_C", some "alt", none⟩,
    ⟨"SHA1_PROCESS_ALT", .hook, .switch false, some "SHA1_C", some "alt", none⟩,
    ⟨"SHA256_PROCESS_ALT", .hook, .switch false, some "SHA256_C", some "alt", none⟩,
    ⟨"SHA512_PROCESS_ALT", .hook, .switch false, some "SHA512_C", some "alt", none⟩,
    ⟨"DES_SETKEY_ALT", .hook, .switch false, some "DES_C", some "alt", none⟩,
    ⟨"DES_CRYPT_ECB_ALT", .hook, .switch false, some "DES_C", some "alt", none⟩,
    ⟨"DES3_CRYPT_ECB_ALT", .hook, .switch false, some "DES_C", some "alt", none⟩,
    ⟨"AES_SETKEY_ENC_ALT", .hook, .switch false, some "AES_C", some "alt", none⟩,
    ⟨"AES_SETKEY_DEC_ALT", .hook, .switch false, some "AES_C", some "alt", none⟩,
    ⟨"AES_ENCRYPT_ALT", .hook, .switch false, some "AES_C", some "alt", none⟩,
    ⟨"AES_DECRYPT_ALT", .hook, .switch false, some "AES_C", some "alt", none⟩,
    ⟨"ECDH_GEN_PUBLIC_ALT", .hook, .switch false, some "ECDH_C", some "alt", none⟩,
    ⟨"ECDH_COMPUTE_SHARED_ALT", .hook, .switch false, some "ECDH_C", some "alt", none⟩,
    ⟨"ECDSA_VERIFY_ALT", .hook, .switch false, some "ECDSA_C", some "alt", none⟩,
    ⟨"ECDSA_SIGN_ALT", .hook, .switch false, some "ECDSA_C", some "alt", none⟩,
    ⟨"ECDSA_GENKEY_ALT", .hook, .switch false, some "ECDSA_C", some "alt", none⟩
  ]

def ecpInternalArithmeticHooks : List Capability :=
  [
    ⟨"ECP_INTERNAL_ALT", .hook, .switch false, some "ECP_C", some "alt",
      some "Expose the internal ECP interface for partial replacement"⟩,
    ⟨"ECP_RANDOMIZE_JAC_ALT", .hook, .switch false, some "ECP_C", some "alt", none⟩,
    ⟨"ECP_ADD_MIXED_ALT", .hook, .switch false, some "ECP_C", some "alt", none⟩,
    ⟨"ECP_DOUBLE_JAC_ALT", .hook, .switch false, some "ECP_C", some "alt", none⟩,
    ⟨"ECP_NORMALIZE_JAC_MANY_ALT", .hook, .switch false, some "ECP_C", some "alt", none⟩,
    ⟨"ECP_NORMALIZE_JAC_ALT", .hook, .switch false, some "ECP_C", some "alt", none⟩,
    ⟨"ECP_DOUBLE_ADD_MXZ_ALT", .hook, .switch false, some "ECP_C", some "alt", none⟩,
    ⟨"ECP_RANDOMIZE_MXZ_ALT", .hook, .switch false, some "ECP_C", some "alt", none⟩,
    ⟨"ECP_NORMALIZE_MXZ_ALT", .hook, .switch false, some "ECP_C", some "alt", none⟩
  ]

def featureSupport : List Capability :=
  [
    ⟨"TEST_NULL_ENTROPY", .flag, .switch false, none, some "feature",
      some "Run without entropy sources. Never use in production"⟩,
    ⟨"ENTROPY_HARDWARE_ALT", .hook, .switch false, some "ENTROPY_C", some "feature",
      some "Own mbedcrypto_hardware_poll() entropy collector"⟩,
    ⟨"AES_ROM_TABLES", .flag, .switch false, none, some "feature", none⟩,
    ⟨"AES_FEWER_TABLES", .flag, .switch false, none, some "feature", none⟩,
    ⟨"CAMELLIA_SMALL_MEMORY", .flag, .switch false, none, some "feature", none⟩,
    ⟨"CIPHER_MODE_CBC", .flag, .switch true, none, some "feature", none⟩,
    ⟨"CIPHER_MODE_CFB", .flag, .switch true, none, some "feature", none⟩,
    ⟨"CIPHER_MODE_CTR", .flag, .switch true, none, some "feature", none⟩,
    ⟨"CIPHER_PADDING_PKCS7", .flag, .switch true, none, some "feature", none⟩,
    ⟨"CIPHER_PADDING_ONE_AND_ZEROS", .flag, .switch true, none, some "feature", none⟩,
    ⟨"CIPHER_PADDING_ZEROS_AND_LEN", .flag, .switch true, none, some "feature", none⟩,
    ⟨"CIPHER_PADDING_ZEROS", .flag, .switch true, none, some "feature", none⟩,
    ⟨"ECP_DP_SECP192R1_ENABLED", .flag, .switch true, none, some "feature", none⟩,
    ⟨"ECP_DP_SECP224R1_ENABLED", .flag, .switch true, none, some "feature", none⟩,
    ⟨"ECP_DP_SECP256R1_ENABLED", .flag, .switch true, none, some "feature", none⟩,
    ⟨"ECP_DP_SECP384R1_ENABLED", .flag, .switch true, none, some "feature", none⟩,
    ⟨"ECP_DP_SECP521R1_ENABLED", .flag, .switch true, none, some "feature", none⟩,
    ⟨"ECP_DP_SECP192K1_ENABLED", .flag, .switch true, none, some "feature", none⟩,
    ⟨"ECP_DP_SECP224K1_ENABLED", .flag, .switch true, none, some "feature", none⟩,
    ⟨"ECP_DP_SECP256K1_ENABLED", .flag, .switch true, none, some "feature", none⟩,
    ⟨"ECP_DP_BP256R1_ENABLED", .flag, .switch true, none, some "feature", none⟩,
    ⟨"ECP_DP_BP384R1_ENABLED", .flag, .switch true, none, some "feature", none⟩,
    ⟨"ECP_DP_BP512R1_ENABLED", .flag, .switch true, none, some "feature", none⟩,
    ⟨"ECP_DP_CURVE25519_ENABLED", .flag, .switch true, none, some "feature", none⟩,
    ⟨"ECP_DP_CURVE448_ENABLED", .flag, .switch true, none, some "feature", none⟩,
    ⟨"ECP_NIST_OPTIM", .flag, .switch true, none, some "feature", none⟩,
    ⟨"ECDSA_DETERMINISTIC", .flag, .switch true, none, some "feature",
      some "Deterministic ECDSA (RFC 6979)"⟩,
    ⟨"PK_PARSE_EC_EXTENDED", .flag, .switch true, none, some "feature", none⟩,
    ⟨"ERROR_STRERROR_DUMMY", .flag, .switch true, none, some "feature", none⟩,
    ⟨"GENPRIME", .flag, .switch true, none, some "feature", none⟩,
    ⟨"FS_IO", .flag, .switch true, none, some "feature", none⟩,
    ⟨"NO_DEFAULT_ENTROPY_SOURCES", .flag, .switch false, none, some "feature", none⟩,
    ⟨"NO_PLATFORM_ENTROPY", .flag, .switch false, none, some "feature", none⟩,
    ⟨"ENTROPY_FORCE_SHA256", .flag, .switch false, none, some "feature", none⟩,
    ⟨"ENTROPY_NV_SEED", .flag, .switch false, none, some "feature",
      some "Non-volatile seed file entropy source"⟩,
    ⟨"MEMORY_DEBUG", .flag, .switch false, none, some "feature", none⟩,
    ⟨"MEMORY_BACKTRACE", .flag, .switch false, none, some "feature", none⟩,
    ⟨"PK_RSA_ALT_SUPPORT", .flag, .switch true, none, some "feature", none⟩,
    ⟨"PKCS1_V15", .flag, .switch true, none, some "feature", none⟩,
    ⟨"PKCS1_V21", .flag, .switch true, none, some "feature", none⟩,
    ⟨"PSA_CRYPTO_SPM", .flag, .switch false, none, some "feature", none⟩,
    ⟨"RSA_NO_CRT", .flag, .switch false, none, some "feature", none⟩,
    ⟨"SELF_TEST", .flag, .switch true, none, some "feature", none⟩,
    ⟨"SHA256_SMALLER", .flag, .switch false, none, some "feature", none⟩,
    ⟨"THREADING_ALT", .hook, .switch false, some "THREADING_C", some "feature", none⟩,
    ⟨"THREADING_PTHREAD", .flag, .switch false, some "THREADING_C", some "feature", none⟩,
    ⟨"VERSION_FEATURES", .flag, .switch true, none, some "feature", none⟩
  ]

def modules : List Capability :=
  [
    ⟨"AESNI_C", .flag, .switch true, none, some "module",
      some "AES-NI instructions (library/aesni.c)"⟩,
    ⟨"AES_C", .flag, .switch true, none, some "module", none⟩,
    ⟨"ARC4_C", .flag, .switch true, none, some "module", none⟩,
    ⟨"ASN1_PARSE_C", .flag, .switch true, none, some "module", none⟩,
    ⟨"ASN1_WRITE_C", .flag, .switch true, none, some "module", none⟩,
    ⟨"BASE64_C", .flag, .switch true, none, some "module", none⟩,
    ⟨"BIGNUM_C", .flag, .switch true, none, some "module", none⟩,
    ⟨"BLOWFISH_C", .flag, .switch true, none, some "module", none⟩,
    ⟨"CAMELLIA_C", .flag, .switch true, none, some "module", none⟩,
    ⟨"CCM_C", .flag, .switch true, none, some "module", none⟩,
    ⟨"CIPHER_C", .flag, .switch true, none, some "module", none⟩,
    ⟨"CMAC_C", .flag, .switch true, none, some "module", none⟩,
    ⟨"CTR_DRBG_C", .flag, .switch true, none, some "module", none⟩,
    ⟨"DES_C", .flag, .switch true, none, some "module", none⟩,
    ⟨"DHM_C", .flag, .switch true, none, some "module", none⟩,
    ⟨"ECDH_C", .flag, .switch true, none, some "module", none⟩,
    ⟨"ECDSA_C", .flag, .switch true, none, some "module", none⟩,
    ⟨"ECJPAKE_C", .flag, .switch true, none, some "module", none⟩,
    ⟨"ECP_C", .flag, .switch true, none, some "module", none⟩,
    ⟨"ENTROPY_C", .flag, .switch true, none, some "module", none⟩,
    ⟨"ERROR_C", .flag, .switch true, none, some "module", none⟩,
    ⟨"GCM_C", .flag, .switch true, none, some "module", none⟩,
    ⟨"HMAC_DRBG_C", .flag, .switch true, none, some "module", none⟩,
    ⟨"MD_C", .flag, .switch true, none, some "module", none⟩,
    ⟨"MD2_C", .flag, .switch true, none, some "module", none⟩,
    ⟨"MD4_C", .flag, .switch true, none, some "module", none⟩,
    ⟨"MD5_C", .flag, .switch true, none, some "module", none⟩,
    ⟨"MEMORY_BUFFER_ALLOC_C", .flag, .switch false, none, some "module",
      some "Stack-buffer based allocator replacing calloc()/free()"⟩,
    ⟨"OID_C", .flag, .switch true, none, some "module", none⟩,
    ⟨"PADLOCK_C", .flag, .switch false, none, some "module",
      some "VIA Padlock support (library/padlock.c)"⟩,
    ⟨"PEM_PARSE_C", .flag, .switch true, none, some "module", none⟩,
    ⟨"PEM_WRITE_C", .flag, .switch true, none, some "module", none⟩,
    ⟨"PK_C", .flag, .switch true, none, some "module", none⟩,
    ⟨"PK_PARSE_C", .flag, .switch true, none, some "module", none⟩,
    ⟨"PK_WRITE_C", .flag, .switch true, none, some "module", none⟩,
    ⟨"PKCS5_C", .flag, .switch true, none, some "module", none⟩,
    ⟨"PKCS11_C", .flag, .switch false, none, some "module", some "Needs libpkcs11-helper"⟩,
    ⟨"PKCS12_C", .flag, .switch true, none, some "module", none⟩,
    ⟨"PLATFORM_C", .flag, .switch true, none, some "module", none⟩,
    ⟨"PSA_CRYPTO_C", .flag, .switch true, none, some "module", none⟩,
    ⟨"RIPEMD160_C", .flag, .switch true, none, some "module", none⟩,
    ⟨"RSA_C", .flag, .switch true, none, some "module", none⟩,
    ⟨"SHA1_C", .flag, .switch true, none, some "module", none⟩,
    ⟨"SHA256_C", .flag, .switch true, none, some "module", none⟩,
    ⟨"SHA512_C", .flag, .switch true, none, some "module", none⟩,
    ⟨"THREADING_C", .flag, .switch false, none, some "module", none⟩,
    ⟨"VERSION_C", .flag, .switch true, none, some "module", none⟩,
    ⟨"XTEA_C", .flag, .switch true, none, some "module", none⟩
  ]

def moduleOptions : List Capability :=
  [
    ⟨"MPI_WINDOW_SIZE", .parameter, .number 6, some "BIGNUM_C", some "module_option", none⟩,
    ⟨"MPI_MAX_SIZE", .parameter, .number 1024, some "BIGNUM_C", some "module_option",
      some "Bytes"⟩,
    ⟨"CTR_DRBG_ENTROPY_LEN", .parameter, .number 48, some "CTR_DRBG_C", some "module_option",
      none⟩,
    ⟨"CTR_DRBG_RESEED_INTERVAL", .parameter, .number 10000, some "CTR_DRBG_C",
      some "module_option", none⟩,
    ⟨"CTR_DRBG_MAX_INPUT", .parameter, .number 256, some "CTR_DRBG_C", some "module_option", none⟩,
    ⟨"CTR_DRBG_MAX_REQUEST", .parameter, .number 1024, some "CTR_DRBG_C", some "module_option",
      none⟩,
    ⟨"CTR_DRBG_MAX_SEED_INPUT", .parameter, .number 384, some "CTR_DRBG_C", some "module_option",
      none⟩,
    ⟨"HMAC_DRBG_RESEED_INTERVAL", .parameter, .number 10000, some "HMAC_DRBG_C",
      some "module_option", none⟩,
    ⟨"HMAC_DRBG_MAX_INPUT", .parameter, .number 256, some "HMAC_DRBG_C", some "module_option",
      none⟩,
    ⟨"HMAC_DRBG_MAX_REQUEST", .parameter, .number 1024, some "HMAC_DRBG_C", some "module_option",
      none⟩,
    ⟨"HMAC_DRBG_MAX_SEED_INPUT", .parameter, .number 384, some "HMAC_DRBG_C",
      some "module_option", none⟩,
    ⟨"ECP_MAX_BITS", .parameter, .number 521, some "ECP_C", some "module_option", none⟩,
    ⟨"ECP_WINDOW_SIZE", .parameter, .number 6, some "ECP_C", some "module_option", none⟩,
    ⟨"ECP_FIXED_POINT_OPTIM", .parameter, .number 1, some "ECP_C", some "module_option", none⟩,
    ⟨"ENTROPY_MAX_SOURCES", .parameter, .number 20, some "ENTROPY_C", some "module_option", none⟩,
    ⟨"ENTROPY_MAX_GATHER", .parameter, .number 128, some "ENTROPY_C", some "module_option", none⟩,
    ⟨"ENTROPY_MIN_HARDWARE", .parameter, .number 32, some "ENTROPY_C", some "module_option", none⟩,
    ⟨"MEMORY_ALIGN_MULTIPLE", .parameter, .number 4, some "MEMORY_BUFFER_ALLOC_C",
      some "module_option", none⟩,
    ⟨"PLATFORM_STD_EXIT_SUCCESS", .parameter, .number 0, some "PLATFORM_C", some "module_option",
      none⟩,
    ⟨"PLATFORM_STD_EXIT_FAILURE", .parameter, .number 1, some "PLATFORM_C", some "module_option",
      none⟩,
    ⟨"PLATFORM_STD_MEM_HDR", .flag, .switch false, some "PLATFORM_C", some "module_option",
      some "Header to include when PLATFORM_NO_STD_FUNCTIONS is set"⟩,
    ⟨"PLATFORM_STD_CALLOC", .flag, .switch false, some "PLATFORM_C", some "module_option",
      some "Default allocator symbol"⟩,
    ⟨"PLATFORM_STD_FREE", .flag, .switch false, some "PLATFORM_C", some "module_option",
      some "Default free symbol"⟩,
    ⟨"PLATFORM_STD_EXIT", .flag, .switch false, some "PLATFORM_C", some "module_option",
      some "Default exit symbol"⟩,
    ⟨"PLATFORM_STD_TIME", .flag, .switch false, some "PLATFORM_C", some "module_option",
      some "Default time symbol"⟩,
    ⟨"PLATFORM_STD_FPRINTF", .flag, .switch false, some "PLATFORM_C", some "module_option",
      some "Default fprintf symbol"⟩,
    ⟨"PLATFORM_STD_PRINTF", .flag, .switch false, some "PLATFORM_C", some "module_option",
      some "Default printf symbol"⟩,
    ⟨"PLATFORM_STD_SNPRINTF", .flag, .switch false, some "PLATFORM_C", some "module_option",
      some "Default snprintf symbol"⟩,
    ⟨"PLATFORM_STD_NV_SEED_READ", .flag, .switch false, some "PLATFORM_C", some "module_option",
      some "Default nv_seed_read function"⟩,
    ⟨"PLATFORM_STD_NV_SEED_WRITE", .flag, .switch false, some "PLATFORM_C", some "module_option",
      some "Default nv_seed_write function"⟩,
    ⟨"PLATFORM_STD_NV_SEED_FILE", .flag, .switch false, some "PLATFORM_C", some "module_option",
      some "Seed file used by the default NV seed functions"⟩
  ]

def platformFunctionMacros : List Capability :=
  [
    ⟨"PLATFORM_CALLOC_MACRO", .flag, .switch false, some "PLATFORM_C", some "customisation", none⟩,
    ⟨"PLATFORM_FREE_MACRO", .flag, .switch false, some "PLATFORM_C", some "customisation", none⟩,
    ⟨"PLATFORM_EXIT_MACRO", .flag, .switch false, some "PLATFORM_C", some "customisation", none⟩,
    ⟨"PLATFORM_TIME_MACRO", .flag, .switch false, some "PLATFORM_C", some "customisation", none⟩,
    ⟨"PLATFORM_TIME_TYPE_MACRO", .flag, .switch false, some "PLATFORM_C", some "customisation",
      none⟩,
    ⟨"PLATFORM_FPRINTF_MACRO", .flag, .switch false, some "PLATFORM_C", some "customisation",
      none⟩,
    ⟨"PLATFORM_PRINTF_MACRO", .flag, .switch false, some "PLATFORM_C", some "customisation", none⟩,
    ⟨"PLATFORM_SNPRINTF_MACRO", .flag, .switch false, some "PLATFORM_C", some "customisation",
      none⟩,
    ⟨"PLATFORM_NV_SEED_READ_MACRO", .flag, .switch false, some "PLATFORM_C", some "customisation",
      none⟩,
    ⟨"PLATFORM_NV_SEED_WRITE_MACRO", .flag, .switch false, some "PLATFORM_C",
      some "customisation", none⟩,
    ⟨"PLATFORM_ZEROIZE_ALT", .hook, .switch false, some "PLATFORM_C", some "customisation",
      some "Own secure mbedcrypto_platform_zeroize()"⟩
  ]

def systemSupportRules : List Rule :=
  [
    ⟨"PLATFORM_MEMORY", none, .requires "PLATFORM_C"⟩,
    ⟨"PLATFORM_NO_STD_FUNCTIONS", none, .requires "PLATFORM_C"⟩,
    ⟨"PLATFORM_EXIT_ALT", none, .requires "PLATFORM_C"⟩,
    ⟨"PLATFORM_FPRINTF_ALT", none, .requires "PLATFORM_C"⟩,
    ⟨"PLATFORM_PRINTF_ALT", none, .requires "PLATFORM_C"⟩,
    ⟨"PLATFORM_SNPRINTF_ALT", none, .requires "PLATFORM_C"⟩,
    ⟨"PLATFORM_NV_SEED_ALT", none, .requires "PLATFORM_C"⟩,
    ⟨"PLATFORM_NV_SEED_ALT", none, .requires "ENTROPY_NV_SEED"⟩,
    ⟨"PLATFORM_SETUP_TEARDOWN_ALT", none, .requires "PLATFORM_C"⟩,
    ⟨"DEPRECATED_WARNING", some "pick one way of handling deprecated functions",
      .excludes "DEPRECATED_REMOVED"⟩
  ]

def ecpInternalHooksRules : List Rule :=
  [
    ⟨"ECP_INTERNAL_ALT",
      some "ECP_ALT replaces the whole module; internal hooks only apply to the built-in one",
      .excludes "ECP_ALT"⟩,
    ⟨"ECP_RANDOMIZE_JAC_ALT", none, .requires "ECP_INTERNAL_ALT"⟩,
    ⟨"ECP_ADD_MIXED_ALT", none, .requires "ECP_INTERNAL_ALT"⟩,
    ⟨"ECP_DOUBLE_JAC_ALT", none, .requires "ECP_INTERNAL_ALT"⟩,
    ⟨"ECP_NORMALIZE_JAC_MANY_ALT", none, .requires "ECP_INTERNAL_ALT"⟩,
    ⟨"ECP_NORMALIZE_JAC_ALT", none, .requires "ECP_INTERNAL_ALT"⟩,
    ⟨"ECP_DOUBLE_ADD_MXZ_ALT", none, .requires "ECP_INTERNAL_ALT"⟩,
    ⟨"ECP_RANDOMIZE_MXZ_ALT", none, .requires "ECP_INTERNAL_ALT"⟩,
    ⟨"ECP_NORMALIZE_MXZ_ALT", none, .requires "ECP_INTERNAL_ALT"⟩
  ]

def featureSupportRules : List Rule :=
  [
    ⟨"TEST_NULL_ENTROPY", none, .requires "ENTROPY_C"⟩,
    ⟨"TEST_NULL_ENTROPY", none, .requires "NO_DEFAULT_ENTROPY_SOURCES"⟩,
    ⟨"TEST_NULL_ENTROPY", some "null entropy is only for builds without any entropy source",
      .excludes "ENTROPY_HARDWARE_ALT"⟩,
    ⟨"TEST_NULL_ENTROPY", some "null entropy is only for builds without any entropy source",
      .excludes "ENTROPY_NV_SEED"⟩,
    ⟨"ECDSA_DETERMINISTIC", none, .requires "HMAC_DRBG_C"⟩,
    ⟨"GENPRIME", none, .requires "BIGNUM_C"⟩,
    ⟨"ENTROPY_FORCE_SHA256", none, .requires "SHA256_C"⟩,
    ⟨"ENTROPY_NV_SEED", none, .requires "ENTROPY_C"⟩,
    ⟨"ENTROPY_NV_SEED", none, .requires "PLATFORM_C"⟩,
    ⟨"MEMORY_DEBUG", none, .requires "MEMORY_BUFFER_ALLOC_C"⟩,
    ⟨"MEMORY_BACKTRACE", none, .requires "MEMORY_BUFFER_ALLOC_C"⟩,
    ⟨"PKCS1_V15", none, .requires "RSA_C"⟩,
    ⟨"PKCS1_V21", none, .requires "MD_C"⟩,
    ⟨"PKCS1_V21", none, .requires "RSA_C"⟩,
    ⟨"PSA_CRYPTO_SPM", none, .requires "PSA_CRYPTO_C"⟩,
    ⟨"THREADING_ALT", none, .requires "THREADING_C"⟩,
    ⟨"THREADING_ALT", some "choose a single threading implementation",
      .excludes "THREADING_PTHREAD"⟩,
    ⟨"THREADING_PTHREAD", none, .requires "THREADING_C"⟩,
    ⟨"VERSION_FEATURES", none, .requires "VERSION_C"⟩
  ]

def modulesRules : List Rule :=
  [
    ⟨"AESNI_C", none, .requires "HAVE_ASM"⟩,
    ⟨"CCM_C", some "CCM needs a 128-bit block cipher", .requiresAny ["AES_C", "CAMELLIA_C"]⟩,
    ⟨"CMAC_C", none, .requiresAny ["AES_C", "DES_C"]⟩,
    ⟨"CTR_DRBG_C", none, .requires "AES_C"⟩,
    ⟨"ECDH_C", none, .requires "ECP_C"⟩,
    ⟨"ECDSA_C", none, .requires "ECP_C"⟩,
    ⟨"ECDSA_C", none, .requires "ASN1_WRITE_C"⟩,
    ⟨"ECDSA_C", none, .requires "ASN1_PARSE_C"⟩,
    ⟨"ECJPAKE_C", none, .requires "ECP_C"⟩,
    ⟨"ECJPAKE_C", none, .requires "MD_C"⟩,
    ⟨"ECP_C", none, .requires "BIGNUM_C"⟩,
    ⟨"ECP_C", some "enable at least one curve", .requiresAny ["ECP_DP_SECP192R1_ENABLED",
      "ECP_DP_SECP224R1_ENABLED", "ECP_DP_SECP256R1_ENABLED", "ECP_DP_SECP384R1_ENABLED",
      "ECP_DP_SECP521R1_ENABLED", "ECP_DP_SECP192K1_ENABLED", "ECP_DP_SECP224K1_ENABLED",
      "ECP_DP_SECP256K1_ENABLED", "ECP_DP_BP256R1_ENABLED", "ECP_DP_BP384R1_ENABLED",
      "ECP_DP_BP512R1_ENABLED", "ECP_DP_CURVE25519_ENABLED", "ECP_DP_CURVE448_ENABLED"]⟩,
    ⟨"ENTROPY_C", none, .requiresAny ["SHA512_C", "SHA256_C"]⟩,
    ⟨"GCM_C", some "GCM needs a 128-bit block cipher", .requiresAny ["AES_C", "CAMELLIA_C"]⟩,
    ⟨"HMAC_DRBG_C", none, .requires "MD_C"⟩,
    ⟨"MEMORY_BUFFER_ALLOC_C", none, .requires "PLATFORM_C"⟩,
    ⟨"MEMORY_BUFFER_ALLOC_C", none, .requires "PLATFORM_MEMORY"⟩,
    ⟨"PADLOCK_C", none, .requires "HAVE_ASM"⟩,
    ⟨"PEM_PARSE_C", none, .requires "BASE64_C"⟩,
    ⟨"PEM_WRITE_C", none, .requires "BASE64_C"⟩,
    ⟨"PK_C", none, .requiresAny ["RSA_C", "ECP_C"]⟩,
    ⟨"PK_PARSE_C", none, .requires "PK_C"⟩,
    ⟨"PK_WRITE_C", none, .requires "PK_C"⟩,
    ⟨"PKCS5_C", none, .requires "MD_C"⟩,
    ⟨"PKCS11_C", none, .requires "PK_C"⟩,
    ⟨"PKCS12_C", none, .requires "ASN1_PARSE_C"⟩,
    ⟨"PKCS12_C", none, .requires "CIPHER_C"⟩,
    ⟨"PKCS12_C", none, .requires "MD_C"⟩,
    ⟨"PSA_CRYPTO_C", none, .requires "CTR_DRBG_C"⟩,
    ⟨"PSA_CRYPTO_C", none, .requires "ENTROPY_C"⟩,
    ⟨"RSA_C", none, .requires "BIGNUM_C"⟩,
    ⟨"RSA_C", none, .requires "OID_C"⟩,
    ⟨"THREADING_C", some "select a threading implementation", .requiresAny ["THREADING_ALT",
      "THREADING_PTHREAD"]⟩
  ]

def moduleOptionsRules : List Rule :=
  [
    ⟨"MPI_WINDOW_SIZE", none, .range 1 6⟩,
    ⟨"MPI_MAX_SIZE", none, .range 1 65536⟩,
    ⟨"CTR_DRBG_ENTROPY_LEN", some "48 with SHA-512, 32 with SHA-256", .range 32 64⟩,
    ⟨"CTR_DRBG_RESEED_INTERVAL", none, .range 1 2147483647⟩,
    ⟨"CTR_DRBG_MAX_INPUT", none, .range 0 1024⟩,
    ⟨"CTR_DRBG_MAX_REQUEST", none, .range 1 65536⟩,
    ⟨"CTR_DRBG_MAX_SEED_INPUT", none, .range 48 4096⟩,
    ⟨"HMAC_DRBG_RESEED_INTERVAL", none, .range 1 2147483647⟩,
    ⟨"HMAC_DRBG_MAX_INPUT", none, .range 0 1024⟩,
    ⟨"HMAC_DRBG_MAX_REQUEST", none, .range 1 65536⟩,
    ⟨"HMAC_DRBG_MAX_SEED_INPUT", none, .range 48 4096⟩,
    ⟨"ECP_MAX_BITS", some "must cover the largest enabled curve", .range 192 521⟩,
    ⟨"ECP_WINDOW_SIZE", none, .range 2 7⟩,
    ⟨"ECP_FIXED_POINT_OPTIM", none, .range 0 1⟩,
    ⟨"ENTROPY_MAX_SOURCES", none, .range 1 256⟩,
    ⟨"ENTROPY_MAX_GATHER", none, .range 32 4096⟩,
    ⟨"ENTROPY_MIN_HARDWARE", none, .range 0 4096⟩,
    ⟨"MEMORY_ALIGN_MULTIPLE", none, .range 1 64⟩,
    ⟨"PLATFORM_STD_EXIT_SUCCESS", none, .range 0 255⟩,
    ⟨"PLATFORM_STD_EXIT_FAILURE", none, .range 0 255⟩,
    ⟨"PLATFORM_STD_MEM_HDR",
      some "the replacement header is only included without standard functions",
      .requires "PLATFORM_NO_STD_FUNCTIONS"⟩,
    ⟨"PLATFORM_STD_MEM_HDR", none, .requires "PLATFORM_C"⟩,
    ⟨"PLATFORM_STD_CALLOC", none, .requires "PLATFORM_C"⟩,
    ⟨"PLATFORM_STD_FREE", none, .requires "PLATFORM_C"⟩,
    ⟨"PLATFORM_STD_EXIT", none, .requires "PLATFORM_C"⟩,
    ⟨"PLATFORM_STD_TIME", none, .requires "PLATFORM_C"⟩,
    ⟨"PLATFORM_STD_FPRINTF", none, .requires "PLATFORM_C"⟩,
    ⟨"PLATFORM_STD_PRINTF", none, .requires "PLATFORM_C"⟩,
    ⟨"PLATFORM_STD_SNPRINTF", none, .requires "PLATFORM_C"⟩,
    ⟨"PLATFORM_STD_NV_SEED_READ",
      some "the default NV seed functions only exist with ENTROPY_NV_SEED",
      .requires "ENTROPY_NV_SEED"⟩,
    ⟨"PLATFORM_STD_NV_SEED_WRITE",
      some "the default NV seed functions only exist with ENTROPY_NV_SEED",
      .requires "ENTROPY_NV_SEED"⟩,
    ⟨"PLATFORM_STD_NV_SEED_FILE",
      some "the default NV seed functions only exist with ENTROPY_NV_SEED",
      .requires "ENTROPY_NV_SEED"⟩
  ]

def platformFunctionMacrosRules : List Rule :=
  [
    ⟨"PLATFORM_CALLOC_MACRO", none, .requires "PLATFORM_MEMORY"⟩,
    ⟨"PLATFORM_CALLOC_MACRO", some "calloc and free macros must be defined together",
      .requires "PLATFORM_FREE_MACRO"⟩,
    ⟨"PLATFORM_FREE_MACRO", none, .requires "PLATFORM_MEMORY"⟩,
    ⟨"PLATFORM_FREE_MACRO", some "calloc and free macros must be defined together",
      .requires "PLATFORM_CALLOC_MACRO"⟩,
    ⟨"PLATFORM_EXIT_MACRO", none, .requires "PLATFORM_C"⟩,
    ⟨"PLATFORM_EXIT_MACRO", some "PLATFORM_XXX_MACRO and PLATFORM_XXX_ALT cannot both be defined",
      .excludes "PLATFORM_EXIT_ALT"⟩,
    ⟨"PLATFORM_TIME_MACRO", none, .requires "PLATFORM_C"⟩,
    ⟨"PLATFORM_TIME_TYPE_MACRO", none, .requires "PLATFORM_C"⟩,
    ⟨"PLATFORM_FPRINTF_MACRO", none, .requires "PLATFORM_C"⟩,
    ⟨"PLATFORM_FPRINTF_MACRO",
      some "PLATFORM_XXX_MACRO and PLATFORM_XXX_ALT cannot both be defined",
      .excludes "PLATFORM_FPRINTF_ALT"⟩,
    ⟨"PLATFORM_PRINTF_MACRO", none, .requires "PLATFORM_C"⟩,
    ⟨"PLATFORM_PRINTF_MACRO",
      some "PLATFORM_XXX_MACRO and PLATFORM_XXX_ALT cannot both be defined",
      .excludes "PLATFORM_PRINTF_ALT"⟩,
    ⟨"PLATFORM_SNPRINTF_MACRO", none, .requires "PLATFORM_C"⟩,
    ⟨"PLATFORM_SNPRINTF_MACRO",
      some "PLATFORM_XXX_MACRO and PLATFORM_XXX_ALT cannot both be defined",
      .excludes "PLATFORM_SNPRINTF_ALT"⟩,
    ⟨"PLATFORM_NV_SEED_READ_MACRO", none, .requires "PLATFORM_C"⟩,
    ⟨"PLATFORM_NV_SEED_READ_MACRO", none, .requires "ENTROPY_NV_SEED"⟩,
    ⟨"PLATFORM_NV_SEED_READ_MACRO",
      some "PLATFORM_XXX_MACRO and PLATFORM_XXX_ALT cannot both be defined",
      .excludes "PLATFORM_NV_SEED_ALT"⟩,
    ⟨"PLATFORM_NV_SEED_WRITE_MACRO", none, .requires "PLATFORM_C"⟩,
    ⟨"PLATFORM_NV_SEED_WRITE_MACRO", none, .requires "ENTROPY_NV_SEED"⟩,
    ⟨"PLATFORM_NV_SEED_WRITE_MACRO",
      some "PLATFORM_XXX_MACRO and PLATFORM_XXX_ALT cannot both be defined",
      .excludes "PLATFORM_NV_SEED_ALT"⟩
  ]

def capabilities : List Capability :=
  systemSupport ++ moduleReplacementHooks ++ functionReplacementHooks ++
    ecpInternalArithmeticHooks ++ featureSupport ++ modules ++ moduleOptions ++
    platformFunctionMacros

def rules : List Rule :=
  systemSupportRules ++ ecpInternalHooksRules ++ featureSupportRules ++ modulesRules ++
    moduleOptionsRules ++ platformFunctionMacrosRules

end FeatureCert.Shipped
