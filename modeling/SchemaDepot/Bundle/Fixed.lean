/-
# Bundled schemas of fixed databases

The complete schemas of the test databases that do not depend on anything, each
as the lines of its file.
-/

namespace SchemaDepot.Bundle

/-- The schema of the test database `db000`. -/
def db000 : List String := [
    "DROP DATABASE IF EXISTS db000;",
    "",
    "CREATE DATABASE db000;",
    "",
    "USE db000;",
    "",
    "CREATE TABLE table_1 (",
    "    id0 VARCHAR(10),",
    "    col_0 VARCHAR(100),",
    "    col_1 VARCHAR(100),",
    "    col_2 VARCHAR(100),",
    "    PRIMARY KEY (id0)",
    ") ENGINE = ndbcluster;",
    "",
    "INSERT INTO table_1 VALUES ('1', 'a', 'b', 'c');",
    "INSERT INTO table_1 VALUES ('2', 'x', 'y', 'z');"]

/-- The schema of the test database `db001`. -/
def db001 : List String := [
    "DROP DATABASE IF EXISTS db001;",
    "",
    "CREATE DATABASE db001;",
    "",
    "USE db001;",
    "",
    "CREATE TABLE table_1 (",
    "    id0 VARCHAR(10),",
    "    col_0 VARCHAR(100),",
    "    col_1 VARCHAR(100),",
    "    col_2 VARCHAR(100),",
    "    PRIMARY KEY (id0)",
    ") ENGINE = ndbcluster;",
    "",
    "INSERT INTO table_1 VALUES ('id0_data', 'col_0_data', 'col_1_data', 'col_2_data');",
    "",
    "CREATE TABLE table_2 (",
    "    id0 VARCHAR(10),",
    "    col_0 VARCHAR(100),",
    "    PRIMARY KEY (id0)",
    ") ENGINE = ndbcluster;",
    "",
    "INSERT INTO table_2 VALUES ('1', 'a');"]

/-- The schema of the test database `db002`. -/
def db002 : List String := [
    "DROP DATABASE IF EXISTS db002;",
    "",
    "CREATE DATABASE db002;",
    "",
    "USE db002;",
    "",
    "-- composite primary key",
    "CREATE TABLE table_1 (",
    "    id0 VARCHAR(10),",
    "    id1 VARCHAR(10),",
    "    col_0 VARCHAR(100),",
    "    col_1 VARCHAR(100),",
    "    PRIMARY KEY (id0, id1)",
    ") ENGINE = ndbcluster;",
    "",
    "INSERT INTO table_1 VALUES ('id0_data', 'id1_data', 'col_0_data', 'col_1_data');",
    "INSERT INTO table_1 VALUES ('1', '1', 'a', 'b');"]

/-- The schema of the test database `db003`. -/
def db003 : List String := [
    "DROP DATABASE IF EXISTS db003;",
    "",
    "CREATE DATABASE db003;",
    "",
    "USE db003;",
    "",
    "CREATE TABLE `date_table` (",
    "    id0 INT,",
    "    col0 DATE,",
    "    PRIMARY KEY (id0)",
    ") ENGINE = ndbcluster;",
    "",
    "INSERT INTO `date_table` VALUES (1, '1111-11-11');",
    "INSERT INTO `date_table` VALUES (2, NULL);",
    "",
    "CREATE TABLE `table with spaces` (",
    "    id0 INT,",
    "    `col 0` VARCHAR(20),",
    "    PRIMARY KEY (id0)",
    ") ENGINE = ndbcluster;",
    "",
    "INSERT INTO `table with spaces` VALUES (1, 'spaced');"]

/-- The schema of the test database `db004`. -/
def db004 : List String := [
    "DROP DATABASE IF EXISTS db004;",
    "",
    "CREATE DATABASE db004;",
    "",
    "USE db004;",
    "",
    "CREATE TABLE int_table (",
    "    id0 INT,",
    "    id1 INT UNSIGNED,",
    "    col0 INT,",
    "    col1 INT UNSIGNED,",
    "    PRIMARY KEY (id0, id1)",
    ") ENGINE = ndbcluster;",
    "",
    "INSERT INTO int_table VALUES (0, 0, 0, 0);",
    "INSERT INTO int_table VALUES (1, 1, 1, 1);",
    "INSERT INTO int_table VALUES (2147483647, 4294967295, 2147483647, 4294967295);",
    "INSERT INTO int_table VALUES (-2147483648, 0, -2147483648, 0);",
    "INSERT INTO int_table VALUES (3, 3, NULL, NULL);"]

/-- The schema of the test database `db005`. -/
def db005 : List String := [
    "DROP DATABASE IF EXISTS db005;",
    "",
    "CREATE DATABASE db005;",
    "",
    "USE db005;",
    "",
    "CREATE TABLE bigint_table (",
    "    id0 BIGINT,",
    "    id1 BIGINT UNSIGNED,",
    "    col0 BIGINT,",
    "    col1 BIGINT UNSIGNED,",
    "    PRIMARY KEY (id0, id1)",
    ") ENGINE = ndbcluster;",
    "",
    "INSERT INTO bigint_table VALUES (0, 0, 0, 0);",
    "INSERT INTO bigint_table VALUES (1, 1, 1, 1);",
    "INSERT INTO bigint_table VALUES (9223372036854775807, 18446744073709551615, 9223372036854775807, 18446744073709551615);",
    "INSERT INTO bigint_table VALUES (-9223372036854775808, 0, -9223372036854775808, 0);",
    "INSERT INTO bigint_table VALUES (2, 2, NULL, NULL);"]

/-- The schema of the test database `db006`. -/
def db006 : List String := [
    "DROP DATABASE IF EXISTS db006;",
    "",
    "CREATE DATABASE db006;",
    "",
    "USE db006;",
    "",
    "CREATE TABLE tinyint_table (",
    "    id0 TINYINT,",
    "    id1 TINYINT UNSIGNED,",
    "    col0 TINYINT,",
    "    col1 TINYINT UNSIGNED,",
    "    PRIMARY KEY (id0, id1)",
    ") ENGINE = ndbcluster;",
    "",
    "INSERT INTO tinyint_table VALUES (0, 0, 0, 0);",
    "INSERT INTO tinyint_table VALUES (127, 255, 127, 255);",
    "INSERT INTO tinyint_table VALUES (-128, 0, -128, 0);",
    "INSERT INTO tinyint_table VALUES (1, 1, NULL, NULL);",
    "",
    "CREATE TABLE smallint_table (",
    "    id0 SMALLINT,",
    "    id1 SMALLINT UNSIGNED,",
    "    col0 SMALLINT,",
    "    col1 SMALLINT UNSIGNED,",
    "    PRIMARY KEY (id0, id1)",
    ") ENGINE = ndbcluster;",
    "",
    "INSERT INTO smallint_table VALUES (0, 0, 0, 0);",
    "INSERT INTO smallint_table VALUES (32767, 65535, 32767, 65535);",
    "INSERT INTO smallint_table VALUES (-32768, 0, -32768, 0);",
    "INSERT INTO smallint_table VALUES (1, 1, NULL, NULL);"]

/-- The schema of the test database `db007`. -/
def db007 : List String := [
    "DROP DATABASE IF EXISTS db007;",
    "",
    "CREATE DATABASE db007;",
    "",
    "USE db007;",
    "",
    "CREATE TABLE mediumint_table (",
    "    id0 MEDIUMINT,",
    "    id1 MEDIUMINT UNSIGNED,",
    "    col0 MEDIUMINT,",
    "    col1 MEDIUMINT UNSIGNED,",
    "    PRIMARY KEY (id0, id1)",
    ") ENGINE = ndbcluster;",
    "",
    "INSERT INTO mediumint_table VALUES (0, 0, 0, 0);",
    "INSERT INTO mediumint_table VALUES (8388607, 16777215, 8388607, 16777215);",
    "INSERT INTO mediumint_table VALUES (-8388608, 0, -8388608, 0);",
    "INSERT INTO mediumint_table VALUES (1, 1, NULL, NULL);"]

/-- The schema of the test database `db008`. -/
def db008 : List String := [
    "DROP DATABASE IF EXISTS db008;",
    "",
    "CREATE DATABASE db008;",
    "",
    "USE db008;",
    "",
    "-- floating point columns cannot be part of a primary key",
    "CREATE TABLE float_table1 (",
    "    id0 INT,",
    "    col0 FLOAT,",
    "    col1 FLOAT UNSIGNED,",
    "    PRIMARY KEY (id0)",
    ") ENGINE = ndbcluster;",
    "",
    "INSERT INTO float_table1 VALUES (0, 0, 0);",
    "INSERT INTO float_table1 VALUES (1, -123.123, 123.123);",
    "INSERT INTO float_table1 VALUES (2, NULL, NULL);",
    "",
    "CREATE TABLE float_table2 (",
    "    id0 FLOAT,",
    "    col0 FLOAT,",
    "    PRIMARY KEY (id0)",
    ") ENGINE = ndbcluster;"]

/-- The schema of the test database `db009`. -/
def db009 : List String := [
    "DROP DATABASE IF EXISTS db009;",
    "",
    "CREATE DATABASE db009;",
    "",
    "USE db009;",
    "",
    "CREATE TABLE double_table1 (",
    "    id0 INT,",
    "    col0 DOUBLE,",
    "    col1 DOUBLE UNSIGNED,",
    "    PRIMARY KEY (id0)",
    ") ENGINE = ndbcluster;",
    "",
    "INSERT INTO double_table1 VALUES (0, 0, 0);",
    "INSERT INTO double_table1 VALUES (1, -123.123, 123.123);",
    "INSERT INTO double_table1 VALUES (2, NULL, NULL);",
    "",
    "CREATE TABLE double_table2 (",
    "    id0 DOUBLE,",
    "    col0 DOUBLE,",
    "    PRIMARY KEY (id0)",
    ") ENGINE = ndbcluster;"]

/-- The schema of the test database `db010`. -/
def db010 : List String := [
    "DROP DATABASE IF EXISTS db010;",
    "",
    "CREATE DATABASE db010;",
    "",
    "USE db010;",
    "",
    "CREATE TABLE decimal_table (",
    "    id0 DECIMAL(10, 5),",
    "    id1 DECIMAL(10, 5) UNSIGNED,",
    "    col0 DECIMAL(10, 5),",
    "    col1 DECIMAL(10, 5) UNSIGNED,",
    "    PRIMARY KEY (id0, id1)",
    ") ENGINE = ndbcluster;",
    "",
    "INSERT INTO decimal_table VALUES (-12345.12345, 12345.12345, -12345.12345, 12345.12345);",
    "INSERT INTO decimal_table VALUES (-67890.12345, 67890.12345, NULL, NULL);"]

/-- The schema of the test database `db011`. -/
def db011 : List String := [
    "DROP DATABASE IF EXISTS db011;",
    "",
    "CREATE DATABASE db011;",
    "",
    "USE db011;",
    "",
    "CREATE TABLE blob_table (",
    "    id0 INT,",
    "    col0 BLOB,",
    "    col1 INT,",
    "    PRIMARY KEY (id0)",
    ") ENGINE = ndbcluster;",
    "",
    "INSERT INTO blob_table VALUES (1, 0xFFFF, 1);",
    "INSERT INTO blob_table VALUES (2, NULL, 2);",
    "",
    "CREATE TABLE text_table (",
    "    id0 INT,",
    "    col0 TEXT,",
    "    col1 INT,",
    "    PRIMARY KEY (id0)",
    ") ENGINE = ndbcluster;",
    "",
    "INSERT INTO text_table VALUES (1, 'text data', 1);",
    "INSERT INTO text_table VALUES (2, NULL, 2);"]

/-- The schema of the test database `db013`. -/
def db013 : List String := [
    "DROP DATABASE IF EXISTS db013;",
    "",
    "CREATE DATABASE db013;",
    "",
    "USE db013;",
    "",
    "-- nullable columns only, used to test partial reads",
    "CREATE TABLE null_table (",
    "    id0 INT,",
    "    col0 INT,",
    "    col1 VARCHAR(100),",
    "    PRIMARY KEY (id0)",
    ") ENGINE = ndbcluster;",
    "",
    "INSERT INTO null_table VALUES (1, NULL, NULL);",
    "INSERT INTO null_table VALUES (2, 2, NULL);",
    "INSERT INTO null_table VALUES (3, NULL, 'three');"]

/-- The schema of the test database `db019`. -/
def db019 : List String := [
    "DROP DATABASE IF EXISTS db019;",
    "",
    "CREATE DATABASE db019;",
    "",
    "USE db019;",
    "",
    "CREATE TABLE date_table (",
    "    id0 DATE,",
    "    col0 DATE,",
    "    PRIMARY KEY (id0)",
    ") ENGINE = ndbcluster;",
    "",
    "INSERT INTO date_table VALUES ('1111-11-11', '1111-11-11');",
    "INSERT INTO date_table VALUES ('1111-11-12', NULL);",
    "",
    "CREATE TABLE datetime_table (",
    "    id0 DATETIME,",
    "    col0 DATETIME,",
    "    PRIMARY KEY (id0)",
    ") ENGINE = ndbcluster;",
    "",
    "INSERT INTO datetime_table VALUES ('1111-11-11 11:11:11', '1111-11-11 11:11:11');",
    "INSERT INTO datetime_table VALUES ('1111-11-11 11:11:12', NULL);",
    "",
    "CREATE TABLE datetime_table3 (",
    "    id0 DATETIME(3),",
    "    col0 DATETIME(3),",
    "    PRIMARY KEY (id0)",
    ") ENGINE = ndbcluster;",
    "",
    "INSERT INTO datetime_table3 VALUES ('1111-11-11 11:11:11.123', '1111-11-11 11:11:11.123');"]

/-- The schema of the test database `db020`. -/
def db020 : List String := [
    "DROP DATABASE IF EXISTS db020;",
    "",
    "CREATE DATABASE db020;",
    "",
    "USE db020;",
    "",
    "CREATE TABLE time_table (",
    "    id0 TIME,",
    "    col0 TIME,",
    "    PRIMARY KEY (id0)",
    ") ENGINE = ndbcluster;",
    "",
    "INSERT INTO time_table VALUES ('11:11:11', '11:11:11');",
    "INSERT INTO time_table VALUES ('12:12:12', NULL);",
    "",
    "CREATE TABLE timestamp_table (",
    "    id0 TIMESTAMP,",
    "    col0 TIMESTAMP NULL,",
    "    PRIMARY KEY (id0)",
    ") ENGINE = ndbcluster;",
    "",
    "INSERT INTO timestamp_table VALUES ('2022-11-11 11:11:11', '2022-11-11 11:11:11');",
    "INSERT INTO timestamp_table VALUES ('2022-11-11 11:11:12', NULL);",
    "",
    "CREATE TABLE year_table (",
    "    id0 YEAR,",
    "    col0 YEAR,",
    "    PRIMARY KEY (id0)",
    ") ENGINE = ndbcluster;",
    "",
    "INSERT INTO year_table VALUES (2022, 2022);",
    "INSERT INTO year_table VALUES (2023, NULL);"]

/-- The schema of the test database `db021`. -/
def db021 : List String := [
    "DROP DATABASE IF EXISTS db021;",
    "",
    "CREATE DATABASE db021;",
    "",
    "USE db021;",
    "",
    "CREATE TABLE bit_table (",
    "    id0 INT,",
    "    col0 BIT(1),",
    "    col1 BIT(8),",
    "    col2 BIT(64),",
    "    PRIMARY KEY (id0)",
    ") ENGINE = ndbcluster;",
    "",
    "INSERT INTO bit_table VALUES (1, b'1', b'10101010', b'1');",
    "INSERT INTO bit_table VALUES (2, NULL, NULL, NULL);"]

/-- The schema of the test database `db022`. -/
def db022 : List String := [
    "DROP DATABASE IF EXISTS db022;",
    "",
    "CREATE DATABASE db022;",
    "",
    "USE db022;",
    "",
    "-- many tables for batched reads",
    "CREATE TABLE table_1 (id0 INT, col0 INT, PRIMARY KEY (id0)) ENGINE = ndbcluster;",
    "CREATE TABLE table_2 (id0 INT, col0 INT, PRIMARY KEY (id0)) ENGINE = ndbcluster;",
    "CREATE TABLE table_3 (id0 INT, col0 INT, PRIMARY KEY (id0)) ENGINE = ndbcluster;",
    "",
    "INSERT INTO table_1 VALUES (1, 1), (2, 2), (3, 3);",
    "INSERT INTO table_2 VALUES (1, 10), (2, 20), (3, 30);",
    "INSERT INTO table_3 VALUES (1, 100), (2, 200), (3, 300);"]

/-- The schema of the test database `db023`. -/
def db023 : List String := [
    "DROP DATABASE IF EXISTS db023;",
    "",
    "CREATE DATABASE db023;",
    "",
    "USE db023;",
    "",
    "CREATE TABLE large_blob_table (",
    "    id0 INT,",
    "    col0 LONGBLOB,",
    "    col1 LONGTEXT,",
    "    PRIMARY KEY (id0)",
    ") ENGINE = ndbcluster;",
    "",
    "INSERT INTO large_blob_table VALUES (1, REPEAT('a', 100000), REPEAT('b', 100000));",
    "INSERT INTO large_blob_table VALUES (2, NULL, NULL);"]

/-- The schema of the test database `db024`. -/
def db024 : List String := [
    "DROP DATABASE IF EXISTS db024;",
    "",
    "CREATE DATABASE db024;",
    "",
    "USE db024;",
    "",
    "-- online feature store style table",
    "CREATE TABLE sample_1_1 (",
    "    id1 BIGINT NOT NULL,",
    "    ts TIMESTAMP NULL DEFAULT NULL,",
    "    data1 VARCHAR(100) DEFAULT NULL,",
    "    data2 VARCHAR(100) DEFAULT NULL,",
    "    PRIMARY KEY (id1)",
    ") ENGINE = ndbcluster;",
    "",
    "INSERT INTO sample_1_1 VALUES (1, '2022-01-09 23:59:59', '1', '1');",
    "INSERT INTO sample_1_1 VALUES (2, NULL, NULL, NULL);",
    "",
    "CREATE TABLE sample_2_1 (",
    "    id1 VARCHAR(100) NOT NULL,",
    "    data1 BIGINT DEFAULT NULL,",
    "    PRIMARY KEY (id1)",
    ") ENGINE = ndbcluster;",
    "",
    "INSERT INTO sample_2_1 VALUES ('1', 1);"]

/-- The metadata database of the feature store. -/
def hopsworks : List String := [
    "DROP DATABASE IF EXISTS hopsworks;",
    "",
    "CREATE DATABASE hopsworks;",
    "",
    "USE hopsworks;",
    "",
    "CREATE TABLE users (",
    "    uid INT NOT NULL AUTO_INCREMENT,",
    "    username VARCHAR(10) NOT NULL,",
    "    email VARCHAR(150) DEFAULT NULL,",
    "    fname VARCHAR(30) DEFAULT NULL,",
    "    lname VARCHAR(30) DEFAULT NULL,",
    "    status INT NOT NULL DEFAULT -1,",
    "    PRIMARY KEY (uid),",
    "    UNIQUE KEY username (username),",
    "    UNIQUE KEY email (email)",
    ") ENGINE = ndbcluster;",
    "",
    "CREATE TABLE project (",
    "    id INT NOT NULL AUTO_INCREMENT,",
    "    inode_pid BIGINT NOT NULL,",
    "    inode_name VARCHAR(255) NOT NULL,",
    "    partition_id BIGINT NOT NULL,",
    "    projectname VARCHAR(100) NOT NULL,",
    "    username VARCHAR(150) NOT NULL,",
    "    created TIMESTAMP NULL DEFAULT NULL,",
    "    description VARCHAR(2000) DEFAULT NULL,",
    "    payment_type VARCHAR(255) NOT NULL DEFAULT 'PREPAID',",
    "    last_quota_update TIMESTAMP NOT NULL DEFAULT CURRENT_TIMESTAMP,",
    "    kafka_max_num_topics INT NOT NULL DEFAULT 100,",
    "    docker_image VARCHAR(255) DEFAULT NULL,",
    "    python_env_id INT DEFAULT NULL,",
    "    creation_status TINYINT NOT NULL DEFAULT 0,",
    "    PRIMARY KEY (id),",
    "    UNIQUE KEY projectname (projectname)",
    ") ENGINE = ndbcluster;",
    "",
    "CREATE TABLE project_team (",
    "    project_id INT NOT NULL,",
    "    team_member VARCHAR(150) NOT NULL,",
    "    team_role VARCHAR(32) NOT NULL,",
    "    added TIMESTAMP NULL DEFAULT NULL,",
    "    PRIMARY KEY (project_id, team_member),",
    "    CONSTRAINT project_team_project FOREIGN KEY (project_id) REFERENCES project (id) ON DELETE CASCADE",
    ") ENGINE = ndbcluster;",
    "",
    "CREATE TABLE api_key (",
    "    id INT NOT NULL AUTO_INCREMENT,",
    "    prefix VARCHAR(45) NOT NULL,",
    "    secret VARCHAR(512) NOT NULL,",
    "    salt VARCHAR(256) NOT NULL,",
    "    created TIMESTAMP NOT NULL,",
    "    modified TIMESTAMP NOT NULL,",
    "    name VARCHAR(45) NOT NULL,",
    "    user_id INT NOT NULL,",
    "    reserved TINYINT DEFAULT 0,",
    "    PRIMARY KEY (id),",
    "    UNIQUE KEY prefix_UNIQUE (prefix),",
    "    UNIQUE KEY index4 (user_id, name),",
    "    CONSTRAINT fk_api_key_1 FOREIGN KEY (user_id) REFERENCES users (uid) ON DELETE CASCADE",
    ") ENGINE = ndbcluster;",
    "",
    "CREATE TABLE api_key_scope (",
    "    id INT NOT NULL AUTO_INCREMENT,",
    "    api_key INT NOT NULL,",
    "    scope VARCHAR(45) NOT NULL,",
    "    PRIMARY KEY (id),",
    "    UNIQUE KEY index2 (api_key, scope),",
    "    CONSTRAINT fk_api_key_scope_1 FOREIGN KEY (api_key) REFERENCES api_key (id) ON DELETE CASCADE",
    ") ENGINE = ndbcluster;",
    "",
    "CREATE TABLE feature_store (",
    "    id INT NOT NULL AUTO_INCREMENT,",
    "    name VARCHAR(100) NOT NULL,",
    "    project_id INT NOT NULL,",
    "    created TIMESTAMP NULL DEFAULT CURRENT_TIMESTAMP,",
    "    hive_db_id BIGINT NOT NULL,",
    "    PRIMARY KEY (id),",
    "    CONSTRAINT fs_project_fk FOREIGN KEY (project_id) REFERENCES project (id) ON DELETE CASCADE",
    ") ENGINE = ndbcluster;",
    "",
    "CREATE TABLE feature_group (",
    "    id INT NOT NULL AUTO_INCREMENT,",
    "    name VARCHAR(63) NOT NULL,",
    "    feature_store_id INT NOT NULL,",
    "    created TIMESTAMP NULL DEFAULT CURRENT_TIMESTAMP,",
    "    creator INT NOT NULL,",
    "    version INT NOT NULL,",
    "    feature_group_type INT NOT NULL DEFAULT 0,",
    "    online_enabled TINYINT NOT NULL DEFAULT 1,",
    "    PRIMARY KEY (id),",
    "    UNIQUE KEY name_version (feature_store_id, name, version),",
    "    CONSTRAINT fg_fs_fk FOREIGN KEY (feature_store_id) REFERENCES feature_store (id) ON DELETE CASCADE",
    ") ENGINE = ndbcluster;",
    "",
    "CREATE TABLE feature_view (",
    "    id INT NOT NULL AUTO_INCREMENT,",
    "    name VARCHAR(63) NOT NULL,",
    "    feature_store_id INT NOT NULL,",
    "    created TIMESTAMP NULL DEFAULT CURRENT_TIMESTAMP,",
    "    creator INT NOT NULL,",
    "    version INT NOT NULL,",
    "    description VARCHAR(10000) DEFAULT NULL,",
    "    PRIMARY KEY (id),",
    "    UNIQUE KEY name_version (feature_store_id, name, version),",
    "    CONSTRAINT fv_fs_fk FOREIGN KEY (feature_store_id) REFERENCES feature_store (id) ON DELETE CASCADE",
    ") ENGINE = ndbcluster;",
    "",
    "-- user: macho, password-less, API key prefix \"bkYjEz6OTZyevbqT\"",
    "INSERT INTO users (uid, username, email, fname, lname, status)",
    "VALUES (10000, 'macho', 'macho@hopsworks.ai', 'Macho', 'Macho', 2);",
    "",
    "INSERT INTO api_key (id, prefix, secret, salt, created, modified, name, user_id, reserved)",
    "VALUES (1, 'bkYjEz6OTZyevbqT', '709faa77accc3f30394cfb53b67253ba64881528cb3056eea110703ca430cce4',",
    "        '1/1TxiaiIB01rIcY2E36iuwKP6fm2GzBaNaQqOVGMhH0AvcIlIzaUIw0fMDjKNLa0OWxAOrfTSPqAolpI/n+ug==',",
    "        '2022-05-30 14:17:22', '2022-05-30 14:17:38', 'myapikey1', 10000, 0);",
    "",
    "INSERT INTO api_key_scope (id, api_key, scope) VALUES (1, 1, 'FEATURESTORE');",
    "INSERT INTO api_key_scope (id, api_key, scope) VALUES (2, 1, 'KAFKA');",
    "INSERT INTO api_key_scope (id, api_key, scope) VALUES (3, 1, 'PROJECT');"]

/-- The database that is created last. -/
def sentinel : List String := [
    "DROP DATABASE IF EXISTS sentinel;",
    "",
    "CREATE DATABASE sentinel;",
    "",
    "USE sentinel;",
    "",
    "CREATE TABLE sentinel (",
    "    id INT NOT NULL,",
    "    created TIMESTAMP DEFAULT CURRENT_TIMESTAMP,",
    "    PRIMARY KEY (id)",
    ") ENGINE = ndbcluster;",
    "",
    "INSERT INTO sentinel (id) VALUES (1);"]

/-- The files of the fixed schemas, by name. -/
def fixedFiles : List (String × List String) := [
    ("DB000.sql", db000),
    ("DB001.sql", db001),
    ("DB002.sql", db002),
    ("DB003.sql", db003),
    ("DB004.sql", db004),
    ("DB005.sql", db005),
    ("DB006.sql", db006),
    ("DB007.sql", db007),
    ("DB008.sql", db008),
    ("DB009.sql", db009),
    ("DB010.sql", db010),
    ("DB011.sql", db011),
    ("DB013.sql", db013),
    ("DB019.sql", db019),
    ("DB020.sql", db020),
    ("DB021.sql", db021),
    ("DB022.sql", db022),
    ("DB023.sql", db023),
    ("DB024.sql", db024),
    ("hopsworks.sql", hopsworks),
    ("sentinel.sql", sentinel)]

end SchemaDepot.Bundle
